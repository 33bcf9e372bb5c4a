import WorkTree.Text.Blank
import WorkTree.Value.Agreement
import WorkTree.Value.Members

set_option relaxedAutoImplicit false
set_option autoImplicit false

/-!
# Completed commands

What a command leaves behind when it has run to its end. An exit code is mostly an integer, but any
value may stand for one. A caller may describe what is left behind with any values; they are looked
at only as far as an answer needs them.

## Main definitions

* `WorkTree.Completion` — exit code and output.
* `WorkTree.Completion.failureDetail` — the best account of why a command failed.
* `WorkTree.Completion.Description` — what a caller says that a command left behind.
* `WorkTree.commandLine` — arguments in one line.

## Main results

* `WorkTree.Completion.failureDetail_description` — a description with texts gives the same account.
-/

namespace WorkTree

/-- Arguments in one line, with a space between neighbours. -/
def commandLine (args : List String) : String :=
  String.intercalate " " args

/-- What a command leaves behind: its exit code and what it printed. -/
structure Completion where
  code : Value
  out : String
  err : String
  deriving DecidableEq, Repr

namespace Completion

/-- Whether the exit code is this number. -/
def hasCode (completion : Completion) (n : Int) : Bool :=
  completion.code.agrees (.int n)

/-- A command succeeded when its exit code is zero. -/
def ok (completion : Completion) : Bool :=
  completion.hasCode 0

/-- The general account of why a command failed. -/
def failureText (args : List String) : String :=
  "git " ++ commandLine args ++ " failed"

/-- Why the command with these arguments failed: what it printed as errors, or else as output, and
a general wording when both are blank. -/
def failureDetail (completion : Completion) (args : List String) : String :=
  let err := Text.strip completion.err
  let out := Text.strip completion.out
  if err ≠ "" then err else if out ≠ "" then out else failureText args

/-! ## Descriptions -/

/-- What a caller says that a command left behind. -/
structure Description where
  code : Value
  out : Value
  err : Value

/-- The description of a completed command. -/
def description (completion : Completion) : Description :=
  ⟨completion.code, .text completion.out, .text completion.err⟩

namespace Description

/-- Whether the command succeeded. -/
def ok (description : Description) : Bool :=
  description.code.agrees (.int 0)

/-- A text without the blanks at its two ends. -/
def stripped (v : Value) : Except Fault String :=
  (v.textFor "strip").map Text.strip

/-- Why the command with these arguments failed. The output is looked at only when there are no
errors, and the arguments have to be texts only when there is no output either. -/
def failureDetail (description : Description) (args : Value) : Except Fault String := do
  let args ← args.members
  let err ← stripped description.err
  if err ≠ "" then return err
  let out ← stripped description.out
  if out ≠ "" then return out
  return failureText (← Value.texts args)

end Description

/-- A description with texts in it gives the same account. -/
theorem failureDetail_description (completion : Completion) (args : List String) :
    completion.description.failureDetail (.list (args.map .text)) =
      .ok (completion.failureDetail args) := by
  by_cases herr : Text.strip completion.err = "" <;> by_cases hout : Text.strip completion.out = ""
    <;> simp [Description.failureDetail, description, Description.stripped, Value.textFor,
      Value.members, Value.members?, failureDetail, herr, hout, bind, Except.bind, pure,
      Except.pure, Except.map]

end Completion

end WorkTree

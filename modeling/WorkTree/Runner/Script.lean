import WorkTree.Entries
import WorkTree.Fault
import WorkTree.Text.Line
import WorkTree.Text.Utf8

set_option relaxedAutoImplicit false
set_option autoImplicit false

/-!
# Scripts of replies

What the outside world answers when a program is started. A script holds replies for lists of
arguments: each start takes the next reply for its arguments, and the last one is given again and
again. Arguments that the script does not mention have a reply of their own; for those that it
mentions without a reply a start ends in a fault.

## Main definitions

* `WorkTree.Stream` — what a program printed, as bytes or as text.
* `WorkTree.Stream.read` — the text that is read from a stream.
* `WorkTree.Reply` — how an attempt to run a program ends.
* `WorkTree.Script`, `WorkTree.Script.answer` — a script, and the next reply for some arguments.
-/

namespace WorkTree

/-- What a program printed: nothing was captured, or a text, or bytes. -/
inductive Stream where
  | absent
  | text (s : String)
  | bytes (b : List UInt8)
  deriving DecidableEq, Repr

/-- The text that is read from a stream: bytes are read as UTF-8, and line endings are made alike.
A stream that was not captured reads as the empty text. -/
def Stream.read : Stream → String
  | .absent => ""
  | .text s => String.ofList (Text.foldNewlines s.toList)
  | .bytes b => String.ofList (Text.foldNewlines (Utf8.decode b))

/-- How an attempt to run a program ends. -/
inductive Reply where
  /-- It runs to its end, mostly with an integer for an exit code. -/
  | completed (code : Value) (out err : Stream)
  /-- It is stopped at the time limit. -/
  | timedOut
  /-- There is no such program. -/
  | notFound
  /-- The operating system refuses, possibly with an error number. -/
  | refused (number : Option Value) (message : Value)
  /-- It ends in a fault. -/
  | interrupted (fault : Fault)
  deriving DecidableEq, Repr

/-- Replies for lists of arguments, and the reply for all other arguments. -/
structure Script where
  entries : List (List String × List Reply)
  otherwise : List String → Reply

namespace Script

/-- The script with other replies for some arguments. -/
def set (script : Script) (args : List String) (replies : List Reply) : Script :=
  { script with entries := Entries.put args replies script.entries }

/-- The next reply for some arguments, and the script that is left. -/
def answer (script : Script) (args : List String) : Reply × Script :=
  match script.entries.lookup args with
  | some (reply :: next :: rest) => (reply, script.set args (next :: rest))
  | some [reply] => (reply, script)
  | some [] => (.interrupted .listTooShort, script)
  | none => (script.otherwise args, script)

end Script

end WorkTree

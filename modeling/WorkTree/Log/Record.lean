import WorkTree.Fault
import WorkTree.Value

set_option relaxedAutoImplicit false
set_option autoImplicit false

/-!
# Log records

What is written to the log: a severity, the channel it was written to and a text.

## Main definitions

* `WorkTree.Log.Channel` — the places that write to the log; `name` is how a log calls them.
* `WorkTree.Log.channelName` — the name of a channel that a caller asks for.
* `WorkTree.Log.Record` — one entry of the log.
-/

namespace WorkTree.Log

/-- The weight of a record. -/
inductive Severity where
  | debug
  | info
  | warning
  deriving DecidableEq, Repr

/-- The name of a severity in the log. -/
def Severity.name : Severity → String
  | .debug => "DEBUG"
  | .info => "INFO"
  | .warning => "WARNING"

/-- The channels: the one of the whole library, and below it those of the runner of commands and of
the sessions. -/
inductive Channel where
  | root
  | runner
  | session
  deriving DecidableEq, Repr

/-- The name of a channel in the log. -/
def Channel.name : Channel → String
  | .root => "gitcache"
  | .runner => "gitcache.git.executor"
  | .session => "gitcache.git.manager"

/-- The name of the channel that a caller asks for: the one of the whole library for every value
that counts as no. -/
def channelName (name : Value) : Except Fault String :=
  if name.truthy then
    match name with
    | .text s => .ok s
    | _ => .error .channelNotText
  else .ok Channel.root.name

/-- An entry of the log. -/
structure Record where
  severity : Severity
  channel : Channel
  message : String
  deriving DecidableEq, Repr

end WorkTree.Log

import WorkTree.Fault
import WorkTree.Log.Record
import WorkTree.Signature
import WorkTree.Text.Upcase
import WorkTree.Value.Whole

set_option relaxedAutoImplicit false
set_option autoImplicit false

/-!
# Setting up the log

The library's channel has a level, handlers with levels of their own, and may pass its records on
to the channel above. Setting up gives the channel one new handler in place of all former ones, and
both the level that is asked for. What is no level is refused, and then nothing changes.

## Main definitions

* `WorkTree.Log.Level` — levels are integers; the named ones are defined here.
* `WorkTree.Log.Request` — what a caller's level comes to before it is accepted.
* `WorkTree.Log.Logger`, `WorkTree.Log.Logger.setup` — the state of the channel, and one set-up.
* `WorkTree.Log.Logger.setupNamed` — a set-up for arguments that are given by their names.
* `WorkTree.Log.Logger.effectiveLevel`, `WorkTree.Log.Logger.isEnabledFor` — which records a channel
  takes.
-/

namespace WorkTree.Log

/-- A threshold for records. -/
abbrev Level := Int

namespace Level

/-- The level of a channel that has none of its own. -/
def unset : Level := 0

/-- From here on a channel takes every record that the library writes. -/
def debug : Level := 10

/-- From here on a channel takes reports of what was done. -/
def info : Level := 20

/-- From here on a channel takes reports of what went wrong without ending an operation. -/
def warning : Level := 30

/-- From here on a channel takes reports of operations that failed. -/
def error : Level := 40

/-- From here on a channel takes only reports of conditions that end the program. -/
def critical : Level := 50

end Level

/-! ## Requests -/

/-- What a caller's level comes to: a number, a text, or something else, by how it is written. -/
inductive Request where
  | number (level : Level)
  | text (s : String)
  | other (literal : String)
  deriving DecidableEq, Repr

/-- The text that the name of the default record format stands for. -/
def defaultFormat : String :=
  "%(levelname)s:%(name)s:%(message)s"

/-- How the table that the name of the format styles stands for is written. -/
def formatStyles : String :=
  "\x7b'%': (<class 'logging.PercentStyle'>, '%(levelname)s:%(name)s:%(message)s'), " ++
  "'\x7b': (<class 'logging.StrFormatStyle'>, " ++
  "'\x7blevelname\x7d:\x7bname\x7d:\x7bmessage\x7d'), " ++
  "'$': (<class 'logging.StringTemplateStyle'>, " ++
  "'$\x7blevelname\x7d:$\x7bname\x7d:$\x7bmessage\x7d')\x7d"

/-- What the names stand for: most of them levels, two of them something else. -/
def named : List (String × Request) :=
  [("CRITICAL", .number .critical), ("FATAL", .number .critical), ("ERROR", .number .error),
    ("WARNING", .number .warning), ("WARN", .number .warning), ("INFO", .number .info),
    ("DEBUG", .number .debug), ("NOTSET", .number .unset), ("BASIC_FORMAT", .text defaultFormat),
    ("_STYLES", .other formatStyles)]

/-- What a caller's level comes to. A text is a name, in letters of either case, and an unknown name
asks for the information level; numbers lose their fraction, and a truth value is a number. -/
def Request.ofValue : Value → Except Fault Request
  | .text s => .ok ((named.lookup (Text.upcase s)).getD (.number .info))
  | .int n => .ok (.number n)
  | .bool b => .ok (.number (if b then 1 else 0))
  | .real x => x.whole.map .number
  | v => .error (.levelNotNumeric v.kind)

/-- The level of a request, which only a number is and a text that names one. -/
def Request.level : Request → Except Fault Level
  | .number level => .ok level
  | .text s =>
    match named.lookup s with
    | some (.number level) => .ok level
    | _ => .error (.levelUnknown s)
  | .other literal => .error (.levelUnusable literal)

/-! ## The library's channel -/

/-- The kinds of handlers: the one that prints records to the console, which the library makes, and
any other one, by the name of its kind. -/
inductive HandlerKind where
  | console
  | other (name : String)
  deriving DecidableEq, Repr

/-- A handler of records. -/
structure Handler where
  kind : HandlerKind
  level : Level
  deriving DecidableEq, Repr

/-- The state of a channel. -/
structure Logger where
  level : Level
  handlers : List Handler
  propagate : Bool
  deriving DecidableEq, Repr

namespace Logger

/-- A handler for the console that takes records from the level of a request on. -/
def handlerFor (request : Request) : Except Fault Handler :=
  request.level.map (Handler.mk .console)

/-- Gives the channel a single handler and both the level of the request; `verbose` asks for the
debugging level whatever the level says. The handler is made before the channel is touched, so a
request that is refused changes nothing. -/
def setup (logger : Logger) (level : Value) (verbose : Bool) : Except Fault Unit × Logger :=
  let request := if verbose then .ok (.number .debug) else Request.ofValue level
  match request with
  | .error fault => (.error fault, logger)
  | .ok request =>
    match handlerFor request with
    | .error fault => (.error fault, logger)
    | .ok handler =>
      let cleared := { logger with handlers := [] }
      match request.level with
      | .error fault => (.error fault, cleared)
      | .ok level =>
        (.ok (), { level, handlers := cleared.handlers ++ [handler], propagate := false })

/-- What a set-up takes. -/
def setupSignature : Signature where
  operation := "setup_logging"
  optional := ["level", "verbose"]

/-- A set-up with named arguments: at the information level, unless another one is given. Arguments
that do not fit change nothing. -/
def setupNamed (logger : Logger) (arguments : List (String × Value)) : Except Fault Unit × Logger :=
  let answer := setupSignature.apply arguments fun value =>
    logger.setup (value "level" (.int Level.info)) (value "verbose" (.bool false)).truthy
  match answer with
  | .error fault => (.error fault, logger)
  | .ok answer => answer

/-- The level that decides for the channel and those below it: its own, unless that is unset; then
the one of the channel above, which is the warning level. -/
def effectiveLevel (logger : Logger) : Level :=
  if logger.level = .unset then .warning else logger.level

/-- Whether the channel takes records of a level. -/
def isEnabledFor (logger : Logger) (level : Level) : Bool :=
  logger.effectiveLevel ≤ level

end Logger

end WorkTree.Log

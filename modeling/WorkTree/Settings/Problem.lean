import WorkTree.Fault

set_option relaxedAutoImplicit false
set_option autoImplicit false

/-!
# Problems with settings

What can be wrong with what is given for a setting, with its tag and its wording, and why there are
no settings in the end.

## Main definitions

* `WorkTree.Settings.Reason` — what can be wrong with a setting.
* `WorkTree.Settings.Problem`, `WorkTree.Settings.Rejection` — what is wrong with a setting, and why
  there are no settings.
-/

namespace WorkTree.Settings

/-- What can be wrong with a setting. -/
inductive Reason where
  | notAnInteger
  | notFinite
  | fractional
  | tooLarge
  | notNumeric
  | notPositive
  | notAPath
  | embeddedNul
  | unknownName
  | frozen
  deriving DecidableEq, Repr

/-- The tag of a reason. -/
def Reason.tag : Reason → String
  | .notAnInteger => "int_parsing"
  | .notFinite => "finite_number"
  | .fractional => "int_from_float"
  | .tooLarge => "int_parsing_size"
  | .notNumeric => "int_type"
  | .notPositive => "greater_than"
  | .notAPath => "path_type"
  | .embeddedNul => "value_error"
  | .unknownName => "extra_forbidden"
  | .frozen => "frozen_instance"

/-- The wording of a reason. -/
def Reason.message : Reason → String
  | .notAnInteger => "Input should be a valid integer, unable to parse string as an integer"
  | .notFinite => "Input should be a finite number"
  | .fractional => "Input should be a valid integer, got a number with a fractional part"
  | .tooLarge => "Unable to parse input string as an integer, exceeded maximum size"
  | .notNumeric => "Input should be a valid integer"
  | .notPositive => "Input should be greater than 0"
  | .notAPath => "Input is not a valid path for <class 'pathlib.Path'>"
  | .embeddedNul => "Value error, embedded null byte"
  | .unknownName => "Extra inputs are not permitted"
  | .frozen => "Instance is frozen"

/-- A problem: the name that was given, and what is wrong with it. -/
structure Problem where
  field : String
  reason : Reason
  deriving DecidableEq, Repr

/-- Why there are no settings: problems with what was given, or a fault. -/
inductive Rejection where
  | invalid (problems : List Problem)
  | interrupted (fault : Fault)
  deriving DecidableEq, Repr

end WorkTree.Settings

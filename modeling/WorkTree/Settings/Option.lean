import WorkTree.Settings.Setting

set_option relaxedAutoImplicit false
set_option autoImplicit false

/-!
# Options

Among the settings a caller may give options, which say where else settings are looked for and how.
Names that are neither settings, in letters of either case, nor options stand for nothing.

## Main definitions

* `WorkTree.Given.options` — the names of all options.
* `WorkTree.Given.option`, `WorkTree.Given.setting?` — the value of an option and of a setting.
* `WorkTree.Given.unknownNames` — the names that stand for nothing.
-/

namespace WorkTree.Given

/-- The names of all options: of those that have a bearing on the two settings, and of those that
concern the parts of settings with parts, the encoding of settings files, and how a command line is
explained to its user. -/
def options : List String :=
  ["_env_prefix", "_env_prefix_target", "_case_sensitive", "_env_ignore_empty",
    "_env_parse_none_str", "_env_nested_max_split", "_env_file", "_secrets_dir", "_build_sources",
    "_cli_parse_args", "_cli_parse_none_str", "_cli_avoid_json", "_cli_exit_on_error",
    "_cli_prefix", "_cli_ignore_unknown_args", "_cli_kebab_case"] ++
  ["_nested_model_default_partial_update", "_env_file_encoding", "_env_file_depth",
    "_env_nested_delimiter", "_env_parse_enums", "_cli_prog_name", "_cli_settings_source",
    "_cli_hide_none_type", "_cli_enforce_required", "_cli_use_class_docs_for_groups",
    "_cli_flag_prefix_char", "_cli_implicit_flags", "_cli_shortcuts", "_cli_show_env_vars"]

/-- The value of an option; an option that is not given has the absent value. -/
def option (given : Given) (name : String) : Value :=
  (given.lookup name).getD .null

/-- Whether an option is given with a value that counts as yes. -/
def holds (given : Given) (name : String) : Bool :=
  (given.option name).truthy

/-- The value that is given for a setting: the first one under its name. -/
def setting? (given : Given) (setting : Setting) : Option Value :=
  (given.find? fun entry => setting.isCalled entry.1).map Prod.snd

/-- The names that are neither settings nor options, in the order given. -/
def unknownNames (given : Given) : List String :=
  given.names.filter fun name =>
    !(options.contains name || Setting.all.any fun setting => setting.isCalled name)

end WorkTree.Given

import WorkTree.Entries
import WorkTree.Settings

set_option relaxedAutoImplicit false
set_option autoImplicit false

/-!
# Attributes of settings

Settings are seen by their attributes. They do not change one by one once they are made, save that
names beginning with an underscore are free for notes, and a caller may put a whole record in the
place of all attributes. Two of the free names are those of what makes assignments, so that nothing
can be assigned any more when something else stands there.

## Main definitions

* `WorkTree.Settings.Attributes`, `WorkTree.Settings.attributes` — attributes with their values.
* `WorkTree.Settings.Attributes.get` — the value of an attribute.
* `WorkTree.Settings.Attributes.assign` — what becomes of an assignment.

## Main results

* `WorkTree.Settings.Attributes.assign_setting` — no setting can be assigned to.
-/

namespace WorkTree.Settings

/-- The attributes of settings, by their names. -/
structure Attributes where
  entries : List (String × Value)
  deriving DecidableEq, Repr

/-- The attributes of checked settings. -/
def attributes (settings : Settings) : Attributes :=
  ⟨[(Setting.projectPath.name, .path settings.projectPath),
    (Setting.timeout.name, .int settings.timeout)]⟩

namespace Attributes

/-- How settings are called in messages. -/
def owner : String :=
  "ManagerConfig"

/-- The value of an attribute. -/
def get (attributes : Attributes) (name : String) : Except Fault Value :=
  match attributes.entries.lookup name with
  | some v => .ok v
  | none => .error (.attributeMissing owner name)

/-- The name that stands for all attributes together. -/
def whole : String :=
  "__dict__"

/-- The name that stands for what says which attributes there are. -/
def kindName : String :=
  "__class__"

/-- The names of what is computed from the attributes. -/
def computed : List String :=
  ["__fields__", "__fields_set__"]

/-- The name of the references that do not keep settings alive. -/
def references : String :=
  "__weakref__"

/-- The names of what is kept apart from the attributes. -/
def apart : List String :=
  ["fields_set", "extra", "private"].map Given.internalName

/-- The name of the operations that make assignments, each under the name that is assigned to. -/
def assigners : String :=
  Given.internalName "setattr_handlers"

/-- The name of the operation that makes all other assignments. -/
def usualAssigner : String :=
  "_setattr_handler"

/-- Refuses an assignment when a value stands in the place of the operation that makes it. -/
def requireAssigner (attributes : Attributes) (name : String) : Except Fault Unit := do
  match attributes.entries.lookup assigners with
  | none => pure ()
  | some (.record operations) =>
    match (operations.lookup name).bind Value.toOption with
    | none => pure ()
    | some v => throw (.notCallable v.kind)
  | some v => throw (.attributeMissing v.kind "get")
  match attributes.entries.lookup usualAssigner with
  | none => pure ()
  | some v => throw (.notCallable v.kind)

/-- Puts a value under a name that may be assigned to. -/
def put (attributes : Attributes) (name : String) (v : Value) : Except Fault Attributes :=
  if name ∈ computed then .error (.attributeComputed name)
  else if name = references then .error (.attributeUnwritable name)
  else if name = kindName then .error (.attributesNotClass v.kind)
  else if name = whole then
    match v with
    | .record fields => .ok ⟨fields⟩
    | v => .error (.attributesNotRecord v.kind)
  else if name ∈ apart then .ok attributes
  else .ok ⟨Entries.put name v attributes.entries⟩

/-- What becomes of an assignment to an attribute. -/
def assign (attributes : Attributes) (name : String) (v : Value) : Except Rejection Attributes :=
  match attributes.requireAssigner name with
  | .error fault => .error (.interrupted fault)
  | .ok () =>
    if name.toList.head? = some '_' then (attributes.put name v).mapError .interrupted
    else .error (.invalid [⟨name, .frozen⟩])

/-- No setting can be assigned to. -/
theorem assign_setting (settings : Settings) (setting : Setting) (v : Value) :
    settings.attributes.assign setting.name v = .error (.invalid [⟨setting.name, .frozen⟩]) := by
  cases setting <;> rfl

end Attributes

end WorkTree.Settings

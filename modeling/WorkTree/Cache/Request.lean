import WorkTree.Cache

set_option relaxedAutoImplicit false
set_option autoImplicit false

/-!
# Requests to a cache

What a caller asks of a cache: an operation with some slots and possibly a value, which comes behind
the slots. Each operation takes a number of its own of them.

## Main definitions

* `WorkTree.Cache.Operation` — the operations, with their names and signatures.
* `WorkTree.Cache.Operation.perform` — what an operation answers, and the cache that it leaves.

## Main results

* `WorkTree.Cache.Operation.perform_get`, `WorkTree.Cache.Operation.perform_set` — what a request
  comes to when it has what it needs.
-/

namespace WorkTree.Cache

/-- What can be asked of a cache. -/
inductive Operation where
  | get
  | set
  | isSet
  | invalidate
  | clear
  | snapshot
  deriving DecidableEq, Repr

/-- What a cache answers. -/
inductive Answer where
  | nothing
  | content (value : Option Value)
  | flag (b : Bool)
  | slots (entries : List (String × Option Value))

namespace Operation

/-- All operations. -/
def all : List Operation :=
  [.get, .set, .isSet, .invalidate, .clear, .snapshot]

/-- The name of an operation. -/
def name : Operation → String
  | .get => "get"
  | .set => "set"
  | .isSet => "is_set"
  | .invalidate => "invalidate"
  | .clear => "clear"
  | .snapshot => "snapshot"

/-- How an operation is called in messages. -/
def title (operation : Operation) : String :=
  "GitCache." ++ operation.name

/-- The operation of a name. -/
def ofName (name : String) : Except Fault Operation :=
  match all.find? fun operation => operation.name = name with
  | some operation => .ok operation
  | none => .error (.attributeMissing "GitCache" name)

/-- The names of what an operation takes; one of them takes as many slots as there are. -/
def parameters : Operation → List String
  | .get | .isSet => ["key"]
  | .set => ["key", "value"]
  | .invalidate | .clear | .snapshot => []

/-- The fault of an operation that is given `given` slots and values. The cache itself counts among
them when there are too many. -/
def arityFault (operation : Operation) (given : Nat) : Fault :=
  let parameters := operation.parameters
  if given < parameters.length then .argumentsMissing operation.title (parameters.drop given)
  else .argumentsTooMany operation.title (parameters.length + 1) (given + 1)

/-- The fault of a value that stands in the place of a slot. -/
def slotFault (v : Value) : Fault :=
  .attributeMissing v.kind "value"

/-- What an operation answers, and the cache that it leaves. A slot in the place of a value is put
in by its name. -/
def perform (operation : Operation) (cache : Cache) (slots : List Slot) (value : Option Value) :
    Except Fault (Answer × Cache) :=
  match operation, slots, value with
  | .get, [slot], none => .ok (.content (cache.get slot), cache)
  | .isSet, [slot], none => .ok (.flag (cache.isSet slot), cache)
  | .get, [], some v | .isSet, [], some v | .invalidate, _, some v => .error (slotFault v)
  | .set, [slot], some v => .ok (.nothing, cache.set slot v)
  | .set, [slot, content], none => .ok (.nothing, cache.set slot (.text content.name))
  | .invalidate, slots, none => .ok (.nothing, cache.invalidate slots)
  | .clear, [], none => .ok (.nothing, cache.clear)
  | .snapshot, [], none => .ok (.slots cache.snapshot, cache)
  | _, _, _ => .error (operation.arityFault (slots.length + value.toList.length))

/-- A slot is read and the cache is left as it is. -/
theorem perform_get (cache : Cache) (slot : Slot) :
    Operation.get.perform cache [slot] none = .ok (.content (cache.get slot), cache) :=
  rfl

/-- A value is put into a slot. -/
theorem perform_set (cache : Cache) (slot : Slot) (v : Value) :
    Operation.set.perform cache [slot] (some v) = .ok (.nothing, cache.set slot v) :=
  rfl

end Operation

end WorkTree.Cache

set_option relaxedAutoImplicit false
set_option autoImplicit false

/-!
# Results

An operation that can fail answers with a result: a value, or the error that stands in its place. A
caller works on results with functions of its own, which may end in a way of their own. A function
that a result has no use for is not called, so that it cannot end anything.

## Main definitions

* `WorkTree.Result` — a value or an error.
* `WorkTree.Result.map`, `WorkTree.Result.mapErr`, `WorkTree.Result.andThen` — a function called on
  the value, on the error, and on the value for the next result.
* `WorkTree.Result.unwrap`, `WorkTree.Result.unwrapOr` — the value, or what takes its place.
* `WorkTree.firstError?` — the first error among some results.

## Main results

* `WorkTree.Result.andThen_andThen` — steps that follow one another can be bracketed in both ways.
-/

namespace WorkTree

/-- What an operation that can fail answers with. -/
abbrev Result (ε α : Type) : Type :=
  Except ε α

namespace Result

variable {ε ε' α β γ : Type} {m : Type → Type} [Monad m]

/-- Whether there is a value. -/
def isOk : Result ε α → Bool
  | .ok _ => true
  | .error _ => false

/-- Whether there is an error. -/
def isErr (r : Result ε α) : Bool :=
  !isOk r

/-- The value; the error of a result without one is raised. -/
def unwrap : Result ε α → Except ε α
  | .ok value => pure value
  | .error e => throw e

/-- The value, or another one where there is none. -/
def unwrapOr (default : α) : Result ε α → α
  | .ok value => value
  | .error _ => default

/-- The result with a function called on its value. -/
def map (f : α → m β) : Result ε α → m (Result ε β)
  | .ok value => .ok <$> f value
  | .error e => pure (.error e)

/-- The result with a function called on its error. -/
def mapErr (f : ε → m ε') : Result ε α → m (Result ε' α)
  | .ok value => pure (.ok value)
  | .error e => .error <$> f e

/-- The result of the next step, which is not made without a value. -/
def andThen (next : α → m (Result ε β)) : Result ε α → m (Result ε β)
  | .ok value => next value
  | .error e => pure (.error e)

/-- Steps that follow one another can be bracketed in both ways. -/
theorem andThen_andThen [LawfulMonad m] (first : α → m (Result ε β)) (second : β → m (Result ε γ))
    (r : Result ε α) :
    andThen first r >>= andThen second =
      andThen (fun value => first value >>= andThen second) r := by
  cases r with
  | ok value => rfl
  | error e => simp only [andThen, pure_bind]

end Result

/-- The first error among some results, if there is one. -/
def firstError? {ε α : Type} (results : List (Result ε α)) : Option ε :=
  results.findSome? fun
    | .error e => some e
    | .ok _ => none

end WorkTree

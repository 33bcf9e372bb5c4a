import WorkTree.BranchName.Basic

set_option relaxedAutoImplicit false
set_option autoImplicit false

/-!
# The grammar of branch names

A branch name is a sequence of components with slashes between them. The grammar says what a
component is and what the first and the last one must not look like.

## Main definitions

* `WorkTree.BranchName.IsComponent` — the components of names.
* `WorkTree.BranchName.IsName` — the names, as sequences of components.
-/

namespace WorkTree.BranchName

/-- A component of a name: it is not empty, does not begin with a period or end in `.lock`, and
holds neither two periods in a row, nor `@` before an opening brace, nor a slash, nor a forbidden
character. -/
structure IsComponent (component : List Char) : Prop where
  ne_nil : component ≠ []
  head_ne : component.head? ≠ some '.'
  not_lock : ¬ lockEnding <:+ component
  no_periods : ¬ ['.', '.'] <:+: component
  no_at_brace : ¬ ['@', '{'] <:+: component
  allowed : ∀ c ∈ component, c ≠ '/' ∧ isForbidden c = false

/-- The text of some components: one after the other with slashes between them. -/
def ofComponents (components : List (List Char)) : List Char :=
  ['/'].intercalate components

/-- A text is a name when it is the text of at least one component, does not begin with a hyphen or
end in a period, and is neither `@` nor `HEAD`. -/
def IsName (s : List Char) : Prop :=
  ∃ components : List (List Char), components ≠ [] ∧ (∀ c ∈ components, IsComponent c) ∧
    s = ofComponents components ∧ s.head? ≠ some '-' ∧ s.getLast? ≠ some '.' ∧
    s ≠ ['@'] ∧ s ≠ ['H', 'E', 'A', 'D']

end WorkTree.BranchName

import Mathlib.Data.List.Basic
import Mathlib.Tactic.Lemma
import WorkTree.Host.Environment

set_option relaxedAutoImplicit false
set_option autoImplicit false

/-!
# An environment within another one

Variables that can all be set are laid over an environment: a variable that is there already gets a
new value in its place, and the others follow in their order. What is read under some names then
depends on these names only, and afterwards the environment is given back entry by entry.

## Main definitions

* `WorkTree.Entries.putAll` — writes some entries one after the other.
* `WorkTree.Environment.IsLegal` — variables that can all be set.
* `WorkTree.Environment.overlaid` — an environment with some variables laid over it.
* `WorkTree.Environment.valuesOf` — the values of some variables, in their order.
* `WorkTree.Environment.GivesAlike` — two ways to set some variables that are as good as each other.

## Main results

* `WorkTree.Environment.settable_eq_ok_iff` — which variables can be set.
* `WorkTree.Environment.get?_overlaid` — a variable is read from what is laid over first.
* `WorkTree.Environment.GivesAlike.getLast?_overlaid` — what is given alike is read alike.
* `WorkTree.Environment.restore_eq` — the environment that is given back is the one that was saved.
* `WorkTree.Environment.during_updates` — a computation with variables that can all be set.
-/

namespace WorkTree

/-! ## Writing several entries -/

namespace Entries

variable {κ α : Type} [DecidableEq κ]

/-- The entries with some new ones written to them, one after the other. -/
def putAll (new entries : List (κ × α)) : List (κ × α) :=
  new.foldl (fun entries entry => put entry.1 entry.2 entries) entries

/-- Entries with distinct keys that are all new are added at the end, in their order. -/
lemma putAll_of_disjoint {new entries : List (κ × α)} (hnew : (new.map Prod.fst).Nodup)
    (hdisjoint : ∀ entry ∈ new, entry.1 ∉ entries.map Prod.fst) :
    putAll new entries = entries ++ new := by
  induction new generalizing entries with
  | nil => exact (List.append_nil entries).symm
  | cons entry new ih =>
    rw [List.map_cons, List.nodup_cons] at hnew
    have hput : put entry.1 entry.2 entries = entries ++ [entry] :=
      put_of_notMem (hdisjoint entry List.mem_cons_self)
    have hrest : ∀ other ∈ new, other.1 ∉ (entries ++ [entry]).map Prod.fst := by
      intro other hother hmem
      rw [List.map_append, List.mem_append] at hmem
      rcases hmem with hmem | hmem
      · exact hdisjoint other (List.mem_cons_of_mem _ hother) hmem
      · refine hnew.1 ?_
        rw [← List.mem_singleton.1 hmem]
        exact List.mem_map_of_mem hother
    calc putAll (entry :: new) entries
        = putAll new (put entry.1 entry.2 entries) := rfl
      _ = (entries ++ [entry]) ++ new := by rw [hput, ih hnew.2 hrest]
      _ = entries ++ entry :: new := by rw [List.append_assoc, List.singleton_append]

/-- What is written under other keys makes no difference among some keys. -/
lemma filter_putAll (keep : κ → Bool) (new entries : List (κ × α)) :
    (putAll new entries).filter (fun entry => keep entry.1) =
      putAll (new.filter fun entry => keep entry.1) (entries.filter fun entry => keep entry.1) := by
  induction new generalizing entries with
  | nil => rfl
  | cons entry new ih =>
    rw [putAll, List.foldl_cons, ← putAll, ih, filter_put]
    cases h : keep entry.1
    · rw [if_neg (by decide), List.filter_cons_of_neg (by simp [h])]
    · rw [if_pos rfl, List.filter_cons_of_pos (by simp [h])]
      rfl

/-- Reading gives what was written, and else what was there. -/
lemma lookup_putAll {new : List (κ × α)} (hnew : (new.map Prod.fst).Nodup)
    (entries : List (κ × α)) (key : κ) :
    (putAll new entries).lookup key = (new.lookup key).or (entries.lookup key) := by
  induction new generalizing entries with
  | nil => rfl
  | cons entry new ih =>
    rw [List.map_cons, List.nodup_cons] at hnew
    rw [putAll, List.foldl_cons, ← putAll, ih hnew.2, lookup_put]
    -- The first entry is not written to again, since the keys are distinct.
    by_cases hkey : key = entry.1
    · have hnone : new.lookup entry.1 = none := by
        refine List.lookup_eq_none_iff.2 fun other hother => bne_iff_ne.2 fun heq => hnew.1 ?_
        rw [heq]
        exact List.mem_map_of_mem hother
      subst hkey
      rw [if_pos rfl, hnone, Option.none_or, List.lookup_cons, beq_self_eq_true]
      rfl
    · rw [if_neg hkey, List.lookup_cons, beq_false_of_ne hkey]

end Entries

namespace Environment

/-! ## Variables that can be set -/

/-- A variable that can be set: its name is not empty and has no equals sign, and the character
U+0000 is neither in the name nor in the value. -/
def IsSettable (entry : String × String) : Prop :=
  entry.1 ≠ "" ∧ '=' ∉ entry.1.toList ∧ '\x00' ∉ entry.1.toList ∧ '\x00' ∉ entry.2.toList

/-- Whether a variable can be set is decided clause by clause. -/
instance (entry : String × String) : Decidable (IsSettable entry) :=
  inferInstanceAs (Decidable (_ ∧ _ ∧ _ ∧ _))

/-- Variables that can all be set. -/
def IsLegal (m : Environment) : Prop :=
  ∀ entry ∈ m.entries, IsSettable entry

/-- Whether all variables can be set is decided one by one. -/
instance (m : Environment) : Decidable m.IsLegal :=
  inferInstanceAs (Decidable (∀ entry ∈ m.entries, IsSettable entry))

/-- A text is set as it is given if that makes a variable, and else it is refused. -/
lemma settable_eq_ok_iff (name s : String) :
    settable name (.text s) = .ok s ↔ IsSettable (name, s) := by
  have hnul : ∀ t : String, t.toList.any (·.toNat == 0) = true ↔ '\x00' ∈ t.toList := by
    intro t
    simp only [List.any_eq_true, beq_iff_eq]
    constructor
    · rintro ⟨c, hmem, hc⟩
      rwa [← Char.toNat_inj.1 (hc.trans rfl : c.toNat = '\x00'.toNat)]
    · exact fun hmem => ⟨_, hmem, rfl⟩
  simp only [settable, IsSettable, Bool.or_eq_true, hnul]
  split
  · next h => grind
  · next h =>
    split
    · next h' => grind
    · split
      · next h'' => grind
      · next h'' => grind

/-- The variables of a mapping, as they are given to be set. -/
def updates (m : Environment) : List (String × Value) :=
  m.entries.map fun entry => (entry.1, .text entry.2)

/-- The environment with some variables laid over it. -/
def overlaid (env m : Environment) : Environment :=
  m.entries.foldl put env

/-- Variables that are set one after the other are entries that are written so. -/
lemma entries_foldl_put (new : List (String × String)) (env : Environment) :
    (new.foldl put env).entries = Entries.putAll new env.entries := by
  induction new generalizing env with
  | nil => rfl
  | cons entry new ih => exact ih (env.put entry)

/-- Variables that can all be set are all set. -/
lemma setAll_of_isSettable {new : List (String × String)} (h : ∀ entry ∈ new, IsSettable entry)
    (env : Environment) :
    env.setAll (new.map fun entry => (entry.1, .text entry.2)) = (.ok (), new.foldl put env) := by
  induction new generalizing env with
  | nil => rfl
  | cons entry new ih =>
    obtain ⟨hentry, hnew⟩ := List.forall_mem_cons.1 h
    rw [List.map_cons, setAll, (settable_eq_ok_iff entry.1 entry.2).2 hentry]
    exact ih hnew (env.put entry)

/-! ## Reading under some names -/

/-- A variable is read from what is laid over, and else from what was there. -/
lemma get?_overlaid (env m : Environment) (name : String) :
    (env.overlaid m).get? name = (m.get? name).or (env.get? name) := by
  rw [get?, overlaid, entries_foldl_put, Entries.lookup_putAll m.nodup]
  rfl

/-- The variables with some names. -/
def those (env : Environment) (isNamed : String → Bool) : List (String × String) :=
  env.entries.filter fun entry => isNamed entry.1

/-- The values of the variables with some names. -/
def valuesOf (env : Environment) (isNamed : String → Bool) : List String :=
  (env.those isNamed).map Prod.snd

/-- Two mappings give the variables with some names alike: the same values in the same order. If the
environment has some of these variables, they have to leave the same value in the last one as well,
since a variable that the environment has keeps its place in it when it is set again. -/
structure GivesAlike (env : Environment) (isNamed : String → Bool) (m m' : Environment) :
    Prop where
  values : m.valuesOf isNamed = m'.valuesOf isNamed
  last : env.those isNamed ≠ [] →
    ((env.overlaid m).valuesOf isNamed).getLast? = ((env.overlaid m').valuesOf isNamed).getLast?

/-- Among some names, the variables that are laid over an environment are laid over those that it
has. -/
lemma those_overlaid (env m : Environment) (isNamed : String → Bool) :
    (env.overlaid m).those isNamed = Entries.putAll (m.those isNamed) (env.those isNamed) := by
  rw [those, overlaid, entries_foldl_put, Entries.filter_putAll]
  rfl

/-- An environment without variables of some names has those that are laid over it. -/
lemma those_overlaid_of_none {env : Environment} {isNamed : String → Bool}
    (h : env.those isNamed = []) (m : Environment) :
    (env.overlaid m).those isNamed = m.those isNamed := by
  have hnodup : ((m.those isNamed).map Prod.fst).Nodup :=
    m.nodup.sublist (List.filter_sublist.map Prod.fst)
  rw [those_overlaid, h, Entries.putAll_of_disjoint hnodup fun _ _ => List.not_mem_nil,
    List.nil_append]

/-- **What is given alike is read alike**, where the last variable counts. -/
theorem GivesAlike.getLast?_overlaid {env m m' : Environment} {isNamed : String → Bool}
    (h : GivesAlike env isNamed m m') :
    ((env.overlaid m).valuesOf isNamed).getLast? =
      ((env.overlaid m').valuesOf isNamed).getLast? := by
  by_cases hnone : env.those isNamed = []
  · rw [valuesOf, valuesOf, those_overlaid_of_none hnone, those_overlaid_of_none hnone]
    exact congrArg List.getLast? h.values
  · exact h.last hnone

/-! ## Giving the environment back -/

/-- An environment is what its entries are. -/
lemma eq_of_entries {env env' : Environment} (h : env.entries = env'.entries) : env = env' := by
  cases env
  cases h
  rfl

/-- An environment that is emptied and filled again has its variables in their old order. -/
theorem restore_eq (env : Environment) : env.restore = env := by
  have hentries : env.restore.entries = env.entries := by
    rw [restore, entries_foldl_put, empty]
    exact Entries.putAll_of_disjoint env.nodup fun _ _ => List.not_mem_nil
  exact eq_of_entries hentries

/-- **A computation with variables that can all be set** runs in the environment with these laid
over it, and leaves the environment as it was. -/
theorem during_updates {α : Type} (env : Environment) {m : Environment} (hm : m.IsLegal)
    (computation : Environment → α) :
    env.during m.updates computation = (.ok (computation (env.overlaid m)), env) := by
  rw [during, updates, setAll_of_isSettable hm]
  dsimp only
  rw [restore_eq]
  rfl

end Environment

end WorkTree

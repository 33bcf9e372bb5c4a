import Mathlib.Data.List.Induction
import Mathlib.Tactic.Lemma
import WorkTree.Cache

set_option relaxedAutoImplicit false
set_option autoImplicit false

/-!
# Edits of a cache

A cache is edited in three ways: a value is put into a slot, some slots are unset, or all are. After
any number of edits each slot answers for itself: the last edit that touches it says what it holds,
and it holds what it held from the beginning if no edit does. All ways of looking at the cache, slot
by slot, by what is set, or as a whole, show the same.

## Main definitions

* `WorkTree.Cache.Edit`, `WorkTree.Cache.edited` — edits, and the cache after some of them.
* `WorkTree.Cache.LastPut` — a value was put into a slot and nothing has touched the slot since.
* `WorkTree.Cache.Records` — a cache holds what some edits have left in the slots of another one.

## Main results

* `WorkTree.Cache.Edit.get_apply` — what one edit does to a slot.
* `WorkTree.Cache.edited_records` — what any number of edits do to all slots.
-/

namespace WorkTree

/-- Only the absent value is no value. -/
lemma Value.toOption_ne_none_iff {value : Value} : value.toOption ≠ none ↔ value ≠ .null := by
  cases value <;> simp [toOption]

namespace Cache

/-! ## Single edits -/

/-- An edit of a cache. -/
inductive Edit where
  | set (slot : Slot) (value : Value)
  | invalidate (slots : List Slot)
  | clear

namespace Edit

/-- The cache after an edit. -/
def apply (cache : Cache) : Edit → Cache
  | .set slot value => cache.set slot value
  | .invalidate slots => cache.invalidate slots
  | .clear => cache.clear

/-- Whether an edit touches a slot: it puts a value into it, or unsets it. -/
def touches (slot : Slot) : Edit → Bool
  | .set slot' _ => slot' = slot
  | .invalidate slots => slot ∈ slots
  | .clear => true

/-- What an edit leaves in the slots that it touches. -/
def leaves : Edit → Option Value
  | .set _ value => value.toOption
  | .invalidate _ | .clear => none

/-- **One edit.** It leaves the same in every slot that it touches, and the others as they were. -/
theorem get_apply (cache : Cache) (edit : Edit) (slot : Slot) :
    (edit.apply cache).get slot =
      if edit.touches slot then edit.leaves else cache.get slot := by
  cases edit with
  | set slot' value =>
    rw [apply, Cache.set, get_write]
    by_cases h : slot = slot'
    · simp [touches, leaves, h]
    · simp [touches, h, Ne.symm h]
  | invalidate slots =>
    rw [apply, get_invalidate]
    simp only [touches, leaves, decide_eq_true_eq]
  | clear =>
    rw [apply, get_clear]
    rfl

end Edit

/-! ## Any number of edits -/

/-- The cache after some edits, made one after the other. -/
def edited (cache : Cache) (edits : List Edit) : Cache :=
  edits.foldl Edit.apply cache

/-- A value was put into a slot by the last edit that touches the slot. -/
def LastPut (edits : List Edit) (slot : Slot) (value : Value) : Prop :=
  ∃ before after, edits = before ++ .set slot value :: after ∧
    ∀ edit ∈ after, edit.touches slot = false

variable {cache : Cache} {edits : List Edit} {slot : Slot}

/-- A slot that no edit touches holds what it held. -/
lemma get_edited_of_untouched (cache : Cache)
    (h : ∀ edit ∈ edits, edit.touches slot = false) :
    (cache.edited edits).get slot = cache.get slot := by
  induction edits generalizing cache with
  | nil => rfl
  | cons edit rest ih =>
    obtain ⟨hedit, hrest⟩ := List.forall_mem_cons.1 h
    calc ((edit.apply cache).edited rest).get slot
        = (edit.apply cache).get slot := ih _ hrest
      _ = cache.get slot := by rw [Edit.get_apply, hedit, if_neg Bool.false_ne_true]

/-- A slot holds what the last edit that touches it leaves there. -/
lemma get_edited_of_last (cache : Cache) {before after : List Edit} {edit : Edit}
    (hedit : edit.touches slot = true) (hafter : ∀ later ∈ after, later.touches slot = false) :
    (cache.edited (before ++ edit :: after)).get slot = edit.leaves := by
  have hsplit : cache.edited (before ++ edit :: after) =
      (edit.apply (cache.edited before)).edited after := by
    rw [edited, List.foldl_append]
    rfl
  rw [hsplit, get_edited_of_untouched _ hafter, Edit.get_apply, if_pos hedit]

/-- If some edit touches a slot, one of them is the last. -/
lemma exists_last_touching (h : ∃ edit ∈ edits, edit.touches slot = true) :
    ∃ before edit after, edits = before ++ edit :: after ∧ edit.touches slot = true ∧
      ∀ later ∈ after, later.touches slot = false := by
  induction edits using List.reverseRecOn with
  | nil =>
    obtain ⟨edit, hmem, -⟩ := h
    cases hmem
  | append_singleton edits last ih =>
    cases hlast : last.touches slot with
    | true => exact ⟨edits, last, [], rfl, hlast, fun _ hmem => nomatch hmem⟩
    | false =>
      obtain ⟨edit, hmem, htouches⟩ := h
      have hearlier : edit ∈ edits := by
        rcases List.mem_append.1 hmem with hmem | hmem
        · exact hmem
        · rw [List.mem_singleton.1 hmem, hlast] at htouches
          cases htouches
      obtain ⟨before, edit', after, rfl, hedit', hafter⟩ := ih ⟨edit, hearlier, htouches⟩
      refine ⟨before, edit', after ++ [last], by simp, hedit', fun later hlater => ?_⟩
      rcases List.mem_append.1 hlater with hlater | hlater
      · exact hafter later hlater
      · rw [List.mem_singleton.1 hlater, hlast]

/-- The edits that do not touch a slot make no difference to it. -/
lemma get_edited_filter (cache : Cache) (edits : List Edit) (slot : Slot) :
    (cache.edited (edits.filter (Edit.touches slot))).get slot =
      (cache.edited edits).get slot := by
  by_cases h : ∃ edit ∈ edits, edit.touches slot = true
  · obtain ⟨before, edit, after, rfl, hedit, hafter⟩ := exists_last_touching h
    have hnone : after.filter (Edit.touches slot) = [] := by
      simpa [List.filter_eq_nil_iff] using hafter
    rw [get_edited_of_last _ hedit hafter, List.filter_append, List.filter_cons_of_pos hedit, hnone,
      get_edited_of_last _ hedit (by simp)]
  · have hnone : edits.filter (Edit.touches slot) = [] := by
      simpa [List.filter_eq_nil_iff] using h
    have huntouched : ∀ edit ∈ edits, edit.touches slot = false := by simpa using h
    rw [hnone, get_edited_of_untouched cache huntouched]
    rfl

/-! ## The cache as a record of its edits -/

/-- A cache holds what some edits have left in the slots of another one. -/
structure Records (start : Cache) (edits : List Edit) (cache : Cache) : Prop where
  /-- A slot holds the value that was put into it, if nothing has touched it since. -/
  put : ∀ slot value, LastPut edits slot value → cache.get slot = value.toOption
  /-- A slot that no edit touches holds what it held at the start. -/
  untouched : ∀ slot, (∀ edit ∈ edits, edit.touches slot = false) →
    cache.get slot = start.get slot
  /-- Any other slot holds nothing. -/
  unset : ∀ slot, (∃ edit ∈ edits, edit.touches slot = true) →
    (∀ value, ¬ LastPut edits slot value) → cache.get slot = none
  /-- A slot is set exactly when it holds something, -/
  isSet_iff : ∀ slot, cache.isSet slot = true ↔ cache.get slot ≠ none
  /-- which after a value was put into it means that this was not the absent one: false and the
  empty text are values like any other. -/
  isSet_put : ∀ slot value, LastPut edits slot value → (cache.isSet slot = true ↔ value ≠ .null)
  /-- Only the edits that touch a slot have a bearing on it. -/
  own : ∀ slot, cache.get slot = (start.edited (edits.filter (Edit.touches slot))).get slot
  /-- The slots are shown in their order, each once, -/
  names : cache.snapshot.map Prod.fst =
    ["is_git_repo", "git_version", "git_status", "git_branch", "git_remote"]
  /-- with what they hold. -/
  shown : ∀ slot, cache.snapshot.lookup slot.name = some (cache.get slot)

/-- A slot is set when it holds something. -/
lemma isSet_eq_true_iff : cache.isSet slot = true ↔ cache.get slot ≠ none := by
  rw [isSet, Option.isSome_iff_ne_none]

/-- A value that was put into a slot stays there as long as no edit touches the slot. -/
lemma get_of_lastPut {value : Value} (h : LastPut edits slot value) :
    (cache.edited edits).get slot = value.toOption := by
  obtain ⟨before, after, rfl, hafter⟩ := h
  exact get_edited_of_last cache (by simp [Edit.touches]) hafter

/-- **A cache is a record of its edits**, whatever it held at the start and however it was edited.

**Proof sketch.** One edit leaves the same in all slots that it touches (`Edit.get_apply`), so the
last one that touches a slot decides (`get_edited_of_last`). If that is not one that puts a value
into the slot, it unsets the slot. -/
theorem edited_records (start : Cache) (edits : List Edit) :
    Records start edits (start.edited edits) where
  put _ _ h := get_of_lastPut h
  untouched _ h := get_edited_of_untouched start h
  unset := by
    intro slot htouched hnone
    obtain ⟨before, edit, after, rfl, hedit, hafter⟩ := exists_last_touching htouched
    rw [get_edited_of_last start hedit hafter]
    cases edit with
    | set slot' value =>
      obtain rfl : slot' = slot := of_decide_eq_true hedit
      exact absurd ⟨before, after, rfl, hafter⟩ (hnone value)
    | invalidate slots => rfl
    | clear => rfl
  isSet_iff _ := isSet_eq_true_iff
  isSet_put slot value h := by
    rw [isSet_eq_true_iff, get_of_lastPut h, Value.toOption_ne_none_iff]
  own slot := (get_edited_filter start edits slot).symm
  names := rfl
  shown slot := by cases slot <;> rfl

end Cache

end WorkTree

import Mathlib.Data.List.Induction
import Mathlib.Data.List.Nodup
import Mathlib.Tactic.Lemma

set_option relaxedAutoImplicit false
set_option autoImplicit false

/-!
# Lists without repetitions

Of the equal entries of a list only the first one is kept. What is kept are all entries, each once,
in the order in which they first stand in the list.

## Main results

* `WorkTree.eraseDups_concat` — one more entry is a repetition, or it is kept at the end.
* `WorkTree.pairwise_findIdx_eraseDups` — what is kept stands in the order of its first places.
-/

namespace WorkTree

variable {α β : Type} [DecidableEq β]

/-- Where nothing is repeated, nothing is left out. -/
lemma eraseDups_of_nodup {xs : List β} (h : xs.Nodup) : xs.eraseDups = xs := by
  induction xs with
  | nil => rfl
  | cons x xs ih =>
    obtain ⟨hx, hxs⟩ := List.nodup_cons.1 h
    have hothers : xs.filter (fun y => !y == x) = xs := by
      refine List.filter_eq_self.2 fun y hy => ?_
      have hne : y ≠ x := fun heq => hx (heq ▸ hy)
      simpa using hne
    rw [List.eraseDups_cons, hothers, ih hxs]

/-- One more entry is a repetition, or it stands at the end. -/
lemma eraseDups_concat (xs : List β) (x : β) :
    (xs ++ [x]).eraseDups = if x ∈ xs then xs.eraseDups else xs.eraseDups ++ [x] := by
  have hone : [x].eraseDups = [x] := eraseDups_of_nodup (List.nodup_singleton x)
  rw [List.eraseDups_append]
  by_cases hx : x ∈ xs <;> simp [List.removeAll, hx, hone]

/-- What is kept has no repetitions. -/
lemma nodup_eraseDups (xs : List β) : xs.eraseDups.Nodup := by
  induction xs using List.reverseRecOn with
  | nil => exact List.nodup_nil
  | append_singleton xs x ih =>
    rw [eraseDups_concat]
    split
    · exact ih
    · next hx =>
      have hdisjoint : xs.eraseDups.Disjoint [x] :=
        List.disjoint_singleton.2 fun hmem => hx (List.mem_eraseDups.1 hmem)
      exact ih.append (List.nodup_singleton x) hdisjoint

/-- When every entry is repeated at once, the same is kept as without that. -/
lemma eraseDups_flatMap_twice (f : α → β) (xs : List α) :
    (xs.flatMap fun x => [f x, f x]).eraseDups = (xs.map f).eraseDups := by
  induction xs using List.reverseRecOn with
  | nil => rfl
  | append_singleton xs x ih =>
    have hmem : f x ∈ (xs.flatMap fun x => [f x, f x]) ↔ f x ∈ xs.map f := by
      simp [eq_comm]
    rw [List.flatMap_append, List.flatMap_singleton, ← List.singleton_append,
      ← List.append_assoc, eraseDups_concat, if_pos (List.mem_append_right _ (by simp)),
      eraseDups_concat, List.map_append, List.map_singleton, eraseDups_concat, ih]
    simp only [hmem]

/-- **What is kept stands in the order of its first places.** The places are those in a list from
which the entries are read.

**Proof sketch.** Induction on the list, from its end. One more place is the first one of an entry
only if that is new, and it is then behind all others; the first place of any other entry stays as
it is. -/
lemma pairwise_findIdx_eraseDups (f : α → Option β) (xs : List α) :
    (xs.filterMap f).eraseDups.Pairwise fun b b' =>
      (xs.findIdx fun x => f x = some b) < xs.findIdx fun x => f x = some b' := by
  induction xs using List.reverseRecOn with
  | nil => exact .nil
  | append_singleton xs x ih =>
    have hplaced : ∀ b ∈ xs.filterMap f, (xs.findIdx fun x => f x = some b) < xs.length := by
      intro b hb
      obtain ⟨y, hy, hfy⟩ := List.mem_filterMap.1 hb
      exact List.findIdx_lt_length.2 ⟨y, hy, decide_eq_true hfy⟩
    have hkept : ∀ b ∈ xs.filterMap f, ((xs ++ [x]).findIdx fun x => f x = some b) =
        xs.findIdx fun x => f x = some b := by
      intro b hb
      rw [List.findIdx_append, if_pos (hplaced b hb)]
    have hold : (xs.filterMap f).eraseDups.Pairwise fun b b' =>
        ((xs ++ [x]).findIdx fun x => f x = some b) <
          (xs ++ [x]).findIdx fun x => f x = some b' := by
      refine ih.imp_of_mem fun hb hb' hlt => ?_
      rwa [hkept _ (List.mem_eraseDups.1 hb), hkept _ (List.mem_eraseDups.1 hb')]
    rw [List.filterMap_append]
    cases hx : f x with
    | none => simpa [hx] using hold
    | some b' =>
      have hone : [x].filterMap f = [b'] := by simp [hx]
      rw [hone, eraseDups_concat]
      split
      · exact hold
      · next hnew =>
        refine List.pairwise_append.2 ⟨hold, List.pairwise_singleton _ _, fun b hb c hc => ?_⟩
        obtain rfl := List.mem_singleton.1 hc
        have hlast : ¬ (xs.findIdx fun x => f x = some c) < xs.length := by
          intro hlt
          obtain ⟨y, hy, hfy⟩ := List.findIdx_lt_length.1 hlt
          exact hnew (List.mem_filterMap.2 ⟨y, hy, of_decide_eq_true hfy⟩)
        have hb := List.mem_eraseDups.1 hb
        rw [hkept b hb, List.findIdx_append, if_neg hlast]
        exact Nat.lt_add_left _ (hplaced b hb)

end WorkTree

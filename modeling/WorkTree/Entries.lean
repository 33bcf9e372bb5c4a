set_option relaxedAutoImplicit false
set_option autoImplicit false

/-!
# Entries in order of insertion

A table is a list of entries, each with a key. Writing to a key that the table holds replaces the
value where it stands; writing to another key adds an entry at the end.

## Main definitions

* `WorkTree.Entries.put` — writes a value under a key.

## Main results

* `WorkTree.Entries.keys_put` — the keys keep their order, and a new one comes last.
* `WorkTree.Entries.lookup_put` — a value that was written is the one that is read.
* `WorkTree.Entries.filter_put` — among some keys, only writing to one of them makes a difference.
-/

namespace WorkTree.Entries

variable {κ α : Type} [DecidableEq κ]

/-- The entries with `value` under `key`: in the place of the former value, or at the end. -/
def put (key : κ) (value : α) : List (κ × α) → List (κ × α)
  | [] => [(key, value)]
  | entry :: rest => if entry.1 = key then (key, value) :: rest else entry :: put key value rest

/-- Writing keeps the keys and their order, and puts a new key at the end. -/
theorem keys_put (key : κ) (value : α) (entries : List (κ × α)) :
    (put key value entries).map Prod.fst =
      if key ∈ entries.map Prod.fst then entries.map Prod.fst
      else entries.map Prod.fst ++ [key] := by
  induction entries with
  | nil => simp [put]
  | cons entry rest ih =>
    by_cases h : entry.1 = key
    · simp [put, h]
    · have h' : ¬key = entry.1 := fun e => h e.symm
      simp only [put, h, if_false, List.map_cons, ih, List.mem_cons, h', false_or]
      split <;> simp

/-- Writing keeps keys distinct. -/
theorem nodup_keys_put {key : κ} {value : α} {entries : List (κ × α)}
    (h : (entries.map Prod.fst).Nodup) : ((put key value entries).map Prod.fst).Nodup := by
  rw [keys_put]
  split
  · exact h
  · next hk => exact List.nodup_append.2 ⟨h, by simp, by grind⟩

/-- Writing to a new key adds an entry at the end. -/
theorem put_of_notMem {key : κ} {value : α} {entries : List (κ × α)}
    (h : key ∉ entries.map Prod.fst) : put key value entries = entries ++ [(key, value)] := by
  induction entries with
  | nil => rfl
  | cons entry rest ih =>
    rw [List.map_cons, List.mem_cons, not_or] at h
    have hother : ¬entry.1 = key := fun e => h.1 e.symm
    simp only [put, hother, if_false, ih h.2, List.cons_append]

/-- The entries under some keys are as before if another key is written to, and else as if only they
were there. -/
theorem filter_put (keep : κ → Bool) (key : κ) (value : α) (entries : List (κ × α)) :
    (put key value entries).filter (fun entry => keep entry.1) =
      if keep key then put key value (entries.filter fun entry => keep entry.1)
      else entries.filter fun entry => keep entry.1 := by
  induction entries with
  | nil => cases h : keep key <;> simp [put, h]
  | cons entry rest ih =>
    by_cases hkey : entry.1 = key
    · subst hkey
      cases h : keep entry.1 <;> simp [put, h]
    · cases h : keep key <;> cases h' : keep entry.1 <;> simp [put, hkey, h, h', ih]

/-- Reading gives the value that was written last under the key. -/
theorem lookup_put (key key' : κ) (value : α) (entries : List (κ × α)) :
    (put key value entries).lookup key' =
      if key' = key then some value else entries.lookup key' := by
  induction entries with
  | nil => grind [put]
  | cons entry rest ih => grind [put]

end WorkTree.Entries

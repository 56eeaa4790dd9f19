import Mathlib.Data.List.Nodup

/-!
# Relations under a unique constraint

A relation whose rows have pairwise different keys, for a key of any type: what
`UNIQUE (...)` promises.  The proof is a field, so a statement that would break the
constraint cannot be written.  Each statement has one lemma, which says what the
relation holds under a key after it.
-/

namespace Relational

/-- Rows with pairwise different keys. -/
structure Keyed (Row : Type*) {Key : Type*} (key : Row → Key) where
  rows : List Row
  keys_nodup : (rows.map key).Nodup

namespace Keyed

variable {Row Key : Type*} {key : Row → Key}

def empty : Keyed Row key where
  rows := []
  keys_nodup := List.nodup_nil

/-- `UPDATE ... SET set WHERE test`, of columns outside the key. -/
def modify (table : Keyed Row key) (test : Row → Bool) (set : Row → Row)
    (hset : ∀ row, key (set row) = key row) : Keyed Row key where
  rows := table.rows.map fun row => if test row then set row else row
  keys_nodup := by
    have hsame : (key ∘ fun row => if test row then set row else row) = key := by
      funext row
      by_cases h : test row <;> simp [h, hset]
    rw [List.map_map, hsame]
    exact table.keys_nodup

variable [DecidableEq Key]

/-- The row under a key. -/
def lookup (table : Keyed Row key) (k : Key) : Option Row :=
  table.rows.find? fun row => key row = k

theorem lookup_eq_some_iff {table : Keyed Row key} {k : Key} {row : Row} :
    table.lookup k = some row ↔ row ∈ table.rows ∧ key row = k := by
  constructor
  · intro hfind
    exact ⟨List.mem_of_find?_eq_some hfind, by simpa using List.find?_some hfind⟩
  · rintro ⟨hmem, rfl⟩
    cases hfind : table.lookup (key row) with
    | none => simpa using List.find?_eq_none.mp hfind row hmem
    | some other =>
        have hinj := List.inj_on_of_nodup_map table.keys_nodup
        have hsame : key other = key row := by simpa using List.find?_some hfind
        rw [hinj (List.mem_of_find?_eq_some hfind) hmem hsame]

theorem key_of_lookup {table : Keyed Row key} {k : Key} {row : Row}
    (hlookup : table.lookup k = some row) : key row = k :=
  (lookup_eq_some_iff.mp hlookup).2

theorem lookup_eq_none_iff {table : Keyed Row key} {k : Key} :
    table.lookup k = none ↔ ∀ row ∈ table.rows, key row ≠ k := by
  simp [lookup]

theorem lookup_modify (table : Keyed Row key) (test : Row → Bool) (set : Row → Row)
    (hset : ∀ row, key (set row) = key row) (k : Key) :
    (table.modify test set hset).lookup k =
      (table.lookup k).map fun row => if test row then set row else row := by
  have hsame : (fun row : Row => decide (key row = k)) ∘
      (fun row => if test row then set row else row) = fun row => decide (key row = k) := by
    funext row
    by_cases h : test row <;> simp [h, hset]
  rw [lookup, modify, List.find?_map, hsame]
  rfl

/-- `INSERT`, refused by the constraint when the key is taken. -/
def insertNew (table : Keyed Row key) (row : Row)
    (hfree : table.lookup (key row) = none) : Keyed Row key where
  rows := table.rows ++ [row]
  keys_nodup := by
    have hother := lookup_eq_none_iff.mp hfree
    rw [List.map_append, List.map_singleton]
    apply List.Nodup.append table.keys_nodup (List.nodup_singleton _)
    simpa [List.disjoint_singleton] using hother

theorem lookup_insertNew (table : Keyed Row key) (row : Row)
    (hfree : table.lookup (key row) = none) (k : Key) :
    (table.insertNew row hfree).lookup k =
      if k = key row then some row else table.lookup k := by
  rw [lookup, insertNew, List.find?_append]
  change (table.lookup k).or _ = _
  by_cases hk : k = key row
  · rw [if_pos hk, hk, hfree]
    simp
  · rw [if_neg hk, List.find?_singleton, if_neg (by simpa using Ne.symm hk), Option.or_none]

/-- `INSERT ... ON CONFLICT DO UPDATE SET set`. -/
def upsert (table : Keyed Row key) (row : Row) (set : Row → Row)
    (hset : ∀ old, key old = key row → key (set old) = key row) : Keyed Row key :=
  if hfree : table.lookup (key row) = none then table.insertNew row hfree
  else
    table.modify (fun old => key old = key row)
      (fun old => if key old = key row then set old else old)
      (by
        intro old
        by_cases hold : key old = key row
        · rw [if_pos hold, hset old hold, hold]
        · rw [if_neg hold])

theorem lookup_upsert (table : Keyed Row key) (row : Row) (set : Row → Row)
    (hset : ∀ old, key old = key row → key (set old) = key row) (k : Key) :
    (table.upsert row set hset).lookup k =
      if k = key row then some ((table.lookup k).elim row set) else table.lookup k := by
  rw [upsert]
  split
  · rename_i hfree
    rw [lookup_insertNew]
    by_cases hk : k = key row
    · rw [if_pos hk, if_pos hk, hk, hfree]
      rfl
    · rw [if_neg hk, if_neg hk]
  · rename_i htaken
    rw [lookup_modify]
    by_cases hk : k = key row
    · obtain ⟨old, hold⟩ := Option.ne_none_iff_exists'.mp htaken
      have hkey := key_of_lookup hold
      rw [if_pos hk, hk, hold]
      simp [hkey]
    · rw [if_neg hk]
      cases hlookup : table.lookup k with
      | none => rfl
      | some old =>
          have hold : ¬ key old = key row := key_of_lookup hlookup ▸ hk
          simp [hold]

end Keyed

end Relational

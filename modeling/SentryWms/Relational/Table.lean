import Mathlib.Algebra.Order.BigOperators.Group.List
import Mathlib.Algebra.Ring.Int.Defs
import Mathlib.Data.List.Nodup

/-!
# Relations keyed by a sequence

A relational table whose primary key is drawn from its own sequence.  The rows
carry the proof that keys are unique and below the sequence value, so a fresh
key never collides with a stored row.  Statements are whole-row inserts, updates
and deletes; the lemmas say how each of them moves a sum over the rows, which is
how ledgers are compared.
-/

namespace Relational

/-- Rows in storage order, with the next value of the key sequence. -/
@[ext]
structure Table (Row : Type*) (key : Row → ℕ) where
  rows : List Row
  nextKey : ℕ
  keys_nodup : (rows.map key).Nodup
  keys_lt : ∀ row ∈ rows, key row < nextKey

/-- `after = before`, the key of the row first: `key_kept` then shows it of every update that
leaves the key column alone. -/
abbrev SameKey {after : ℕ} (before : ℕ) : Prop := after = before

theorem key_kept {Row : Type*} {key : Row → ℕ} (row : Row) : @SameKey (key row) (key row) := rfl

variable {k : ℕ}

namespace Table

variable {Row : Type*} {key : Row → ℕ}

/-- The table before its first insert. -/
def empty : Table Row key where
  rows := []
  nextKey := 1
  keys_nodup := List.nodup_nil
  keys_lt := by simp

/-- `INSERT ... RETURNING key`: the new row takes the next sequence value. -/
def insert (table : Table Row key) (make : ℕ → Row)
    (hkey : ∀ value, key (make value) = value := by
      first
      | with_reducible exact fun value => Eq.refl value
      | as_aux_lemma => intro _; rfl) :
    Table Row key where
  rows := table.rows ++ [make table.nextKey]
  nextKey := table.nextKey + 1
  keys_nodup := by
    have hfresh : table.nextKey ∉ table.rows.map key := by
      intro hmem
      obtain ⟨row, hrow, hrowkey⟩ := List.mem_map.mp hmem
      have := table.keys_lt row hrow
      omega
    rw [List.map_append, List.map_singleton, hkey]
    exact List.Nodup.append table.keys_nodup (List.nodup_singleton _)
      (by simpa using hfresh)
  keys_lt := by
    intro row hrow
    rcases List.mem_append.mp hrow with hold | hnew
    · exact Nat.lt_succ_of_lt (table.keys_lt row hold)
    · rw [List.mem_singleton.mp hnew, hkey]
      exact Nat.lt_succ_self _

/-- `UPDATE ... SET set WHERE test`: every matching row is rewritten. -/
def update (table : Table Row key) (test : Row → Bool) (set : Row → Row)
    (hset : ∀ row, @SameKey (key (set row)) (key row) := by
      first | with_reducible exact Relational.key_kept | as_aux_lemma => intro _; rfl) :
    Table Row key where
  rows := table.rows.map fun row => if test row then set row else row
  nextKey := table.nextKey
  keys_nodup := by
    have hsame : (key ∘ fun row => if test row then set row else row) = key := by
      funext row
      by_cases h : test row <;> simp [h, hset]
    rw [List.map_map, hsame]
    exact table.keys_nodup
  keys_lt := by
    intro row hrow
    obtain ⟨old, hold, rfl⟩ := List.mem_map.mp hrow
    have := table.keys_lt old hold
    by_cases h : test old <;> simpa [h, hset] using this

/-- `UPDATE ... WHERE key = k`. -/
def updateKey (table : Table Row key) (k : ℕ) (set : Row → Row)
    (hset : ∀ row, @SameKey (key (set row)) (key row) := by
      first | with_reducible exact Relational.key_kept | as_aux_lemma => intro _; rfl) :
    Table Row key :=
  table.update (fun row => key row = k) set hset

/-- `DELETE ... WHERE test`. -/
def delete (table : Table Row key) (test : Row → Bool) : Table Row key where
  rows := table.rows.filter fun row => !test row
  nextKey := table.nextKey
  keys_nodup :=
    (List.Sublist.map key List.filter_sublist).nodup table.keys_nodup
  keys_lt := fun row hrow => table.keys_lt row (List.mem_of_mem_filter hrow)

/-- `SELECT * ... WHERE key = k`. -/
def find? (table : Table Row key) (k : ℕ) : Option Row :=
  table.rows.find? fun row => key row = k

/-- `SELECT * ... WHERE test`, in storage order. -/
def select (table : Table Row key) (test : Row → Bool) : List Row := table.rows.filter test

/-- The rows a stretch of inserts has added. -/
def appended (before after : Table Row key) : List Row := after.rows.drop before.rows.length

/-- `SELECT SUM(value)`. -/
def sum (table : Table Row key) (value : Row → ℤ) : ℤ := (table.rows.map value).sum

theorem appended_eq {before after : Table Row key} {written : List Row}
    (hrows : after.rows = before.rows ++ written) :
    appended before after = written := by
  rw [appended, hrows, List.drop_left]

/-! ## Looking a row up by its key -/

theorem find?_mem {table : Table Row key} {row : Row}
    (hfind : table.find? k = some row) : row ∈ table.rows :=
  List.mem_of_find?_eq_some hfind

theorem find?_key {table : Table Row key} {row : Row}
    (hfind : table.find? k = some row) : key row = k := by
  simpa using List.find?_some hfind

/-- Keys are unique, so a stored row is the one its key finds. -/
theorem find?_eq_some_iff {table : Table Row key} {row : Row} :
    table.find? k = some row ↔ row ∈ table.rows ∧ key row = k := by
  constructor
  · intro hfind
    exact ⟨find?_mem hfind, find?_key hfind⟩
  · rintro ⟨hmem, rfl⟩
    cases hfind : table.find? (key row) with
    | none =>
        have := List.find?_eq_none.mp hfind row hmem
        simp at this
    | some other =>
        have hinj := List.inj_on_of_nodup_map table.keys_nodup
        rw [hinj (find?_mem hfind) hmem (find?_key hfind)]

theorem find?_eq_none_iff {table : Table Row key} :
    table.find? k = none ↔ ∀ row ∈ table.rows, key row ≠ k := by
  simp [find?, List.find?_eq_none]

theorem find?_nextKey (table : Table Row key) : table.find? table.nextKey = none :=
  find?_eq_none_iff.mpr fun row hrow => Nat.ne_of_lt (table.keys_lt row hrow)

/-- `INSERT` of a row whose key the sequence has already handed out. -/
def insertAs (table : Table Row key) (row : Row) (hfree : table.find? (key row) = none) :
    Table Row key where
  rows := table.rows ++ [row]
  nextKey := max table.nextKey (key row + 1)
  keys_nodup := by
    have hfresh : key row ∉ table.rows.map key := by
      intro hmem
      obtain ⟨other, hother, hkey⟩ := List.mem_map.mp hmem
      exact find?_eq_none_iff.mp hfree other hother hkey
    rw [List.map_append, List.map_singleton]
    exact List.Nodup.append table.keys_nodup (List.nodup_singleton _)
      (by simpa using hfresh)
  keys_lt := by
    intro other hother
    rcases List.mem_append.mp hother with hold | hnew
    · exact lt_max_of_lt_left (table.keys_lt other hold)
    · rw [List.mem_singleton.mp hnew]
      exact lt_max_of_lt_right (Nat.lt_succ_self _)

theorem find?_insert (table : Table Row key) (make : ℕ → Row)
    (hkey : ∀ value, key (make value) = value) (k : ℕ) :
    (table.insert make hkey).find? k =
      if k = table.nextKey then some (make k) else table.find? k := by
  by_cases hk : k = table.nextKey
  · subst hk
    rw [if_pos rfl, find?_eq_some_iff]
    exact ⟨by simp [insert], hkey _⟩
  · have hne : ¬ table.nextKey = k := fun h => hk h.symm
    simp only [find?, insert, List.find?_append, if_neg hk, List.find?_singleton,
      hkey, hne, decide_false, Bool.false_eq_true, if_false, Option.or_none]

theorem find?_update (table : Table Row key) (test : Row → Bool)
    (set : Row → Row) (hset : ∀ row, key (set row) = key row) (k : ℕ) :
    (table.update test set hset).find? k =
      (table.find? k).map fun row => if test row then set row else row := by
  have hkeys : ∀ row, key (if test row then set row else row) = key row := by
    intro row
    by_cases h : test row <;> simp [h, hset]
  simp only [find?, update, List.find?_map]
  congr 2
  funext row
  simp [Function.comp_apply, hkeys]

theorem find?_updateKey (table : Table Row key) (set : Row → Row)
    (hset : ∀ row, key (set row) = key row) (j k : ℕ) :
    (table.updateKey j set hset).find? k =
      if k = j then (table.find? k).map set else table.find? k := by
  rw [updateKey, find?_update]
  cases hfind : table.find? k with
  | none => simp
  | some row =>
      have hrow := find?_key hfind
      by_cases h : k = j <;> simp [h, hrow]

theorem find?_delete (table : Table Row key) (test : Row → Bool) (k : ℕ) :
    (table.delete test).find? k =
      (table.find? k).filter fun row => !test row := by
  cases hfind : table.find? k with
  | none =>
      rw [find?_eq_none_iff] at hfind
      simpa using find?_eq_none_iff.mpr fun row hrow => hfind row (List.mem_of_mem_filter hrow)
  | some row =>
      obtain ⟨hmem, hkey⟩ := find?_eq_some_iff.mp hfind
      by_cases htest : test row
      · have hnone : (table.delete test).find? k = none := by
          rw [find?_eq_none_iff]
          intro other hother hotherkey
          obtain ⟨hmem', hnot⟩ := List.mem_filter.mp hother
          have hsame : other = row :=
            List.inj_on_of_nodup_map table.keys_nodup hmem' hmem
              (hotherkey.trans hkey.symm)
          simp [hsame, htest] at hnot
        simp [hnone, htest, Option.filter]
      · have hsome : (table.delete test).find? k = some row := by
          rw [find?_eq_some_iff]
          exact ⟨List.mem_filter.mpr ⟨hmem, by simpa using htest⟩, hkey⟩
        simp [hsome, htest, Option.filter]

/-- `DELETE ... WHERE key = k`. -/
theorem find?_deleteKey (table : Table Row key) (j k : ℕ) :
    (table.delete fun row => key row = j).find? k = if k = j then none else table.find? k := by
  rw [find?_delete]
  cases hfind : table.find? k with
  | none => simp
  | some row =>
      have hrow := find?_key hfind
      by_cases h : k = j <;> simp [h, hrow]

/-- Every row of an update by key is a stored row, rewritten if it has the key. -/
theorem exists_of_mem_updateKey {table : Table Row key} {set : Row → Row}
    {hset : ∀ row, key (set row) = key row} {row : Row}
    (hmem : row ∈ (table.updateKey k set hset).rows) :
    ∃ old ∈ table.rows, row = if key old = k then set old else old := by
  obtain ⟨old, hold, rfl⟩ := List.mem_map.mp hmem
  exact ⟨old, hold, by simp⟩

/-- The rows after the update of a stored row. -/
theorem mem_updateKey {table : Table Row key} {set : Row → Row} {row row' : Row}
    (hmem : row ∈ table.rows) :
    row' ∈ table.rows.map (fun old => if decide (key old = key row) then set old else old) ↔
      row' ∈ table.rows ∧ key row' ≠ key row ∨ row' = set row := by
  constructor
  · intro hmem'
    obtain ⟨old, hold, rfl⟩ := List.mem_map.mp hmem'
    by_cases hkey : key old = key row
    · rw [if_pos (decide_eq_true hkey), List.inj_on_of_nodup_map table.keys_nodup hold hmem hkey]
      exact Or.inr rfl
    · rw [if_neg (by simpa using hkey)]
      exact Or.inl ⟨hold, hkey⟩
  · intro hcases
    apply List.mem_map.mpr
    rcases hcases with ⟨hold, hkey⟩ | rfl
    · exact ⟨row', hold, if_neg (by simpa using hkey)⟩
    · exact ⟨row, hmem, if_pos (decide_eq_true rfl)⟩

/-! ## A column of the row with a key -/

/-- What an update does to a column: nothing, or what it sets in a row it
matches. -/
theorem view_update {Value : Type*} (view : Row → Value) {table : Table Row key}
    {test : Row → Bool} {set : Row → Row} {hset : ∀ row, key (set row) = key row}
    {old new : Value} (hbefore : (table.find? k).map view = some old)
    (hafter : ((table.update test set hset).find? k).map view = some new) :
    new = old ∨ ∃ row, table.find? k = some row ∧ test row = true ∧
      old = view row ∧ new = view (set row) := by
  rw [find?_update] at hafter
  cases hfind : table.find? k with
  | none =>
      rw [hfind] at hbefore
      cases hbefore
  | some row =>
      rw [hfind, Option.map_some, Option.some.injEq] at hbefore
      rw [hfind, Option.map_some, Option.map_some, Option.some.injEq] at hafter
      by_cases htest : test row
      · rw [if_pos htest] at hafter
        exact Or.inr ⟨row, rfl, htest, hbefore.symm, hafter.symm⟩
      · rw [if_neg htest] at hafter
        exact Or.inl (hafter.symm.trans hbefore)

theorem view_updateKey {Value : Type*} (view : Row → Value) {table : Table Row key}
    {set : Row → Row} {hset : ∀ row, key (set row) = key row} {j : ℕ} {old new : Value}
    (hbefore : (table.find? k).map view = some old)
    (hafter : ((table.updateKey j set hset).find? k).map view = some new) :
    new = old ∨ ∃ row, table.find? k = some row ∧ k = j ∧ old = view row ∧
      new = view (set row) := by
  cases view_update view hbefore hafter with
  | inl hsame => exact Or.inl hsame
  | inr hrow =>
      obtain ⟨row, hfind, htest, hold, hnew⟩ := hrow
      have hkey := find?_key hfind
      exact Or.inr ⟨row, hfind, hkey.symm.trans (by simpa using htest), hold, hnew⟩

/-- Deleting rows changes no column of a row that stays. -/
theorem view_delete {Value : Type*} (view : Row → Value) {table : Table Row key}
    {test : Row → Bool} {old new : Value}
    (hbefore : (table.find? k).map view = some old)
    (hafter : ((table.delete test).find? k).map view = some new) : new = old := by
  rw [find?_delete] at hafter
  cases hfind : table.find? k with
  | none =>
      rw [hfind] at hbefore
      cases hbefore
  | some row =>
      rw [hfind, Option.map_some, Option.some.injEq] at hbefore
      obtain ⟨kept, hkept, hview⟩ := Option.map_eq_some_iff.mp hafter
      rw [hfind, Option.filter_eq_some_iff, Option.some.injEq] at hkept
      rw [← hview, ← hbefore, hkept.1]

/-- Appending rows changes no column of a stored row. -/
theorem view_append {Value : Type*} (view : Row → Value)
    {table appendedTo : Table Row key} {added : List Row}
    (hrows : appendedTo.rows = table.rows ++ added) {old new : Value}
    (hbefore : (table.find? k).map view = some old)
    (hafter : (appendedTo.find? k).map view = some new) : new = old := by
  obtain ⟨row, hrow, hview⟩ := Option.map_eq_some_iff.mp hbefore
  have hkept : appendedTo.find? k = some row := by
    rw [find?, hrows, List.find?_append]
    rw [find?] at hrow
    rw [hrow, Option.some_or]
  rw [hkept, Option.map_some, Option.some.injEq] at hafter
  rw [← hafter, hview]

/-- A query that no longer matches the rewritten row loses it. -/
theorem select_updateKey_drop (table : Table Row key) (k : ℕ) (set : Row → Row)
    (hset : ∀ row, key (set row) = key row) {test : Row → Bool}
    (hafter : ∀ row ∈ table.rows, key row = k → test (set row) = false) :
    (table.updateKey k set hset).select test =
      (table.select test).filter fun row => key row ≠ k := by
  simp only [select, updateKey, update]
  generalize table.rows = stored at hafter ⊢
  induction stored with
  | nil => rfl
  | cons row rows ih =>
      have hrest := ih fun other hother => hafter other (List.mem_cons_of_mem _ hother)
      rw [List.map_cons, List.filter_cons, List.filter_cons, hrest]
      by_cases hkey : key row = k
      · have hnew := hafter row List.mem_cons_self hkey
        by_cases htest : test row <;> simp [hkey, hnew, htest]
      · by_cases htest : test row <;> simp [hkey, htest]

/-- Keys are unique, so a stored row is in a query's result when its key is. -/
theorem key_mem_select (table : Table Row key) (test : Row → Bool) {row : Row}
    (hrow : row ∈ table.rows) :
    key row ∈ (table.select test).map key ↔ test row = true := by
  constructor
  · intro hmem
    obtain ⟨found, hfound, hkey⟩ := List.mem_map.mp hmem
    obtain ⟨hstored, htest⟩ := List.mem_filter.mp hfound
    rwa [List.inj_on_of_nodup_map table.keys_nodup hstored hrow hkey] at htest
  · intro htest
    exact List.mem_map_of_mem (List.mem_filter.mpr ⟨hrow, htest⟩)

/-- Tables with the same keys agree on a view of their rows when they agree on it at
each key. -/
theorem map_view_eq {Value : Type*} (view : Row → Value) {before after : Table Row key}
    (hkeys : after.rows.map key = before.rows.map key)
    (hviews : ∀ k, (after.find? k).map view = (before.find? k).map view) :
    after.rows.map view = before.rows.map view := by
  have hlookup : ∀ table : Table Row key, table.rows.map (fun row => some (view row)) =
      (table.rows.map key).map fun k => (table.find? k).map view := by
    intro table
    rw [List.map_map]
    apply List.map_congr_left
    intro row hrow
    rw [Function.comp_apply, find?_eq_some_iff.mpr ⟨hrow, rfl⟩, Option.map_some]
  have hsome : (after.rows.map view).map some = (before.rows.map view).map some := by
    rw [List.map_map, List.map_map]
    refine (hlookup after).trans (Eq.trans ?_ (hlookup before).symm)
    rw [hkeys]
    exact List.map_congr_left fun k _ => hviews k
  exact List.map_injective_iff.mpr (fun _ _ hsame => Option.some.inj hsame) hsome

/-! ## Sums over the rows -/

theorem sum_congr (table : Table Row key) {f g : Row → ℤ}
    (h : ∀ row ∈ table.rows, f row = g row) : table.sum f = table.sum g := by
  rw [sum, sum, List.map_congr_left h]

theorem sum_add (table : Table Row key) (f g : Row → ℤ) :
    table.sum (fun row => f row + g row) = table.sum f + table.sum g :=
  List.sum_map_add

theorem sum_sub (table : Table Row key) (f g : Row → ℤ) :
    table.sum (fun row => f row - g row) = table.sum f - table.sum g := by
  have h := sum_add table (fun row => f row - g row) g
  simp only [sub_add_cancel] at h
  exact eq_sub_of_add_eq h.symm

@[simp]
theorem sum_zero (table : Table Row key) : table.sum (fun _ => 0) = 0 := by
  simp [sum]

theorem sum_eq_zero (table : Table Row key) {f : Row → ℤ}
    (h : ∀ row ∈ table.rows, f row = 0) : table.sum f = 0 := by
  rw [sum_congr table h, sum_zero]

theorem sum_nonneg (table : Table Row key) {f : Row → ℤ}
    (h : ∀ row ∈ table.rows, 0 ≤ f row) : 0 ≤ table.sum f :=
  List.sum_nonneg (by simpa using h)

theorem sum_insert (table : Table Row key) (make : ℕ → Row)
    (hkey : ∀ value, key (make value) = value) (f : Row → ℤ) :
    (table.insert make hkey).sum f = table.sum f + f (make table.nextKey) := by
  simp [sum, insert]

theorem sum_update (table : Table Row key) (test : Row → Bool)
    (set : Row → Row) (hset : ∀ row, key (set row) = key row) (f : Row → ℤ) :
    (table.update test set hset).sum f =
      table.sum f +
        table.sum fun row => if test row then f (set row) - f row else 0 := by
  rw [← sum_add]
  simp only [sum, update, List.map_map]
  refine congrArg List.sum (List.map_congr_left fun row _ => ?_)
  by_cases h : test row <;> simp [h]

/-- An update that leaves the summed value alone leaves the sum alone. -/
theorem sum_update_same (table : Table Row key) (test : Row → Bool)
    (set : Row → Row) (hset : ∀ row, key (set row) = key row) {f : Row → ℤ}
    (hsame : ∀ row, f (set row) = f row) :
    (table.update test set hset).sum f = table.sum f := by
  simp [sum_update, hsame]

theorem sum_delete (table : Table Row key) (test : Row → Bool) (f : Row → ℤ) :
    (table.delete test).sum f =
      table.sum f - table.sum fun row => if test row then f row else 0 := by
  rw [← sum_sub]
  simp only [sum, delete]
  induction table.rows with
  | nil => rfl
  | cons row rows ih =>
      by_cases h : test row <;> simp [h, ih]

/-- The values of a query's result add up to the values of the rows that match. -/
theorem sum_select (table : Table Row key) (test : Row → Bool) (f : Row → ℤ) :
    ((table.select test).map f).sum =
      table.sum fun row => if test row then f row else 0 := by
  simp only [select, sum]
  induction table.rows with
  | nil => rfl
  | cons row rows ih =>
      by_cases h : test row <;> simp [h, ih]

/-- Summing a value that only the row with key `k` carries. -/
theorem sum_at_key (table : Table Row key) (k : ℕ) (f : Row → ℤ) :
    (table.sum fun row => if key row = k then f row else 0) =
      (table.find? k).elim 0 f := by
  have hnodup := table.keys_nodup
  simp only [sum, find?]
  generalize table.rows = stored at hnodup ⊢
  induction stored with
  | nil => rfl
  | cons row rows ih =>
      rw [List.map_cons, List.nodup_cons] at hnodup
      by_cases h : key row = k
      · have hrest : (rows.map fun row => if key row = k then f row else 0) =
            rows.map fun _ => 0 := by
          refine List.map_congr_left fun other hother => if_neg fun hk => ?_
          exact hnodup.1 (List.mem_map.mpr ⟨other, hother, hk.trans h.symm⟩)
        simp [h, hrest]
      · simpa [h] using ih hnodup.2

theorem sum_updateKey (table : Table Row key) (k : ℕ) (set : Row → Row)
    (hset : ∀ row, key (set row) = key row) (f : Row → ℤ) :
    (table.updateKey k set hset).sum f =
      table.sum f + (table.find? k).elim 0 fun row => f (set row) - f row := by
  rw [updateKey, sum_update, ← sum_at_key]
  simp

end Table

end Relational

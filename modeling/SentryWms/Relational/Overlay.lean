import SentryWms.Relational.Table

/-!
# The rows a transaction has written

A transaction that has not committed sees its own versions of the rows it has written,
the last one of each, over the committed rows.
-/

namespace Relational.Table

variable {Row : Type*} {key : Row → ℕ}

/-- The version of a row, if one was written; the last one is in front. -/
def versionOf (key : Row → ℕ) (written : List Row) (k : ℕ) : Option Row :=
  written.find? fun version => key version = k

/-- The table with the written versions in place of the rows. -/
def overlay (table : Table Row key) (written : List Row) : Table Row key :=
  table.update (fun _ => true) (fun row => (versionOf key written (key row)).getD row) (by
    intro row
    cases hversion : versionOf key written (key row) with
    | none => rfl
    | some version => simpa using List.find?_some hversion)

theorem versionOf_mem {written : List Row} {k : ℕ} {version : Row}
    (hversion : versionOf key written k = some version) :
    version ∈ written ∧ key version = k := by
  have hkey := List.find?_some hversion
  exact ⟨List.mem_of_find?_eq_some hversion, of_decide_eq_true hkey⟩

theorem versionOf_eq_none {written : List Row} {k : ℕ} :
    versionOf key written k = none ↔ ∀ version ∈ written, key version ≠ k := by
  simp [versionOf]

theorem find?_overlay (table : Table Row key) (written : List Row) (k : ℕ) :
    (table.overlay written).find? k =
      (table.find? k).map fun row => (versionOf key written k).getD row := by
  rw [overlay, find?_update]
  cases hfound : table.find? k with
  | none => rfl
  | some row => simp [find?_key hfound]

/-- A row that was not written is the committed one. -/
theorem find?_overlay_of_unwritten {table : Table Row key} {written : List Row} {k : ℕ}
    (hunwritten : ∀ version ∈ written, key version ≠ k) :
    (table.overlay written).find? k = table.find? k := by
  rw [find?_overlay, versionOf_eq_none.mpr hunwritten]
  cases table.find? k <;> rfl

/-- Every row of the table is a written version or a committed row. -/
theorem mem_overlay {table : Table Row key} {written : List Row} {row : Row}
    (hmem : row ∈ (table.overlay written).rows) :
    row ∈ written ∨ row ∈ table.rows ∧ ∀ version ∈ written, key version ≠ key row := by
  obtain ⟨old, hold, rfl⟩ := List.mem_map.mp hmem
  dsimp only
  rw [if_pos rfl]
  cases hversion : versionOf key written (key old) with
  | none => exact Or.inr ⟨hold, versionOf_eq_none.mp hversion⟩
  | some version => exact Or.inl (versionOf_mem hversion).1

end Relational.Table

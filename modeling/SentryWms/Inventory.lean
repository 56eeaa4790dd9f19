import Mathlib.Algebra.BigOperators.Ring.List
import Mathlib.Data.List.Sort
import SentryWms.Relational.Draw
import SentryWms.Relational.Run
import SentryWms.Schema

/-!
# Inventory statements

Every service moves stock through a handful of `UPDATE inventory` statements.
They are stated here once, with the queries that choose the rows, and each with
the amount by which it moves the units on hand and the reserved units of a set
of places.  The statements keyed by `(item_id, bin_id)` touch every lot row of
the bin, each clamped on its own; the lemmas keep that visible.
-/

namespace SentryWms

open Relational

/-- Where a row's units are: its item, bin and warehouse columns. -/
structure Place where
  itemId : ℕ
  binId : ℕ
  warehouseId : ℕ
  deriving DecidableEq, Repr

def InventoryRow.place (row : InventoryRow) : Place where
  itemId := row.itemId
  binId := row.binId
  warehouseId := row.warehouseId

/-- `quantity_on_hand - quantity_allocated`. -/
def InventoryRow.available (row : InventoryRow) : ℤ := row.quantityOnHand - row.quantityAllocated

/-- The row without the time of its last change. -/
def InventoryRow.unstamped (row : InventoryRow) : InventoryRow := { row with updatedAt := 0 }

variable {row : InventoryRow} {itemId warehouseId : ℕ}

namespace Inventory

/-! ## Queries -/

/-- `ORDER BY`; rows that compare equal keep their storage order. -/
def orderBy {Row : Type*} (precedes : Row → Row → Prop)
    [DecidableRel precedes] (rows : List Row) : List Row :=
  rows.insertionSort precedes

theorem mem_orderBy {Row : Type*} {precedes : Row → Row → Prop}
    [DecidableRel precedes] {rows : List Row} {row : Row} :
    row ∈ orderBy precedes rows ↔ row ∈ rows :=
  List.mem_insertionSort precedes

theorem orderBy_perm {Row : Type*} (precedes : Row → Row → Prop)
    [DecidableRel precedes] (rows : List Row) :
    (orderBy precedes rows).Perm rows :=
  List.perm_insertionSort precedes rows

/-- `JOIN bins`: the type and walk position of a row's bin. -/
def binOf? (db : Db) (row : InventoryRow) : Option Bin := db.bins.find? row.binId

def pickSequenceOf (db : Db) (row : InventoryRow) : ℤ := (binOf? db row).elim 0 Bin.pickSequence

/-- `b.bin_type IN ('Pickable', 'PickableStaging')`. -/
def inPickableBin (db : Db) (row : InventoryRow) : Bool :=
  match binOf? db row with
  | some bin => bin.binType = .binPickable ∨ bin.binType = .binPickableStaging
  | none => false

/-- The rows a pick may be planned from, in walk order and first-in first-out
within a position. -/
def pickableRows (db : Db) (itemId warehouseId : ℕ) : List InventoryRow :=
  orderBy
    (fun left right =>
      pickSequenceOf db left < pickSequenceOf db right ∨
        (pickSequenceOf db left = pickSequenceOf db right ∧ left.updatedAt ≤ right.updatedAt))
    (db.inventory.select fun row =>
      row.itemId = itemId ∧ row.warehouseId = warehouseId ∧
        0 < row.available ∧ inPickableBin db row)

/-- The rows a reservation may be taken from, fullest first. -/
def reservableRows (db : Db) (itemId warehouseId : ℕ) : List InventoryRow :=
  orderBy
    (fun left right =>
      right.available < left.available ∨
        (left.available = right.available ∧ left.inventoryId ≤ right.inventoryId))
    (db.inventory.select fun row =>
      row.itemId = itemId ∧ row.warehouseId = warehouseId ∧
        row.quantityAllocated < row.quantityOnHand)

/-- The rows a reservation may be given back to, in lock order. -/
def allocatedRows (db : Db) (itemId warehouseId : ℕ) : List InventoryRow :=
  orderBy (fun left right => left.inventoryId ≤ right.inventoryId)
    (db.inventory.select fun row =>
      row.itemId = itemId ∧ row.warehouseId = warehouseId ∧ 0 < row.quantityAllocated)

/-! ## Statements -/

/-- `SET quantity_allocated = quantity_allocated + :qty WHERE inventory_id = :id`;
`stamp` is `updated_at = NOW()` where the statement has it. -/
def addAllocated (stamp : Option ℕ) (qty : ℤ) (inventoryId : ℕ) (db : Db) : Db :=
  { db with
    inventory := db.inventory.updateKey inventoryId fun row =>
      { row with
        quantityAllocated := row.quantityAllocated + qty
        updatedAt := stamp.getD row.updatedAt } }

/-- The update of `confirm_pick` and `short_pick`, floored at zero on every
row of the bin. -/
def takePicked (now : ℕ) (itemId binId : ℕ) (picked allocated : ℤ) (db : Db) : Db :=
  { db with
    inventory := db.inventory.update
      (fun row => row.itemId = itemId ∧ row.binId = binId) fun row =>
      { row with
        quantityOnHand := max 0 (row.quantityOnHand - picked)
        quantityAllocated := max 0 (row.quantityAllocated - allocated)
        updatedAt := now } }

/-- `SET quantity_allocated = GREATEST(0, quantity_allocated - :qty)` on every
row of the bin. -/
def releaseAllocated (stamp : Option ℕ) (itemId binId : ℕ) (qty : ℤ) (db : Db) : Db :=
  { db with
    inventory := db.inventory.update
      (fun row => row.itemId = itemId ∧ row.binId = binId) fun row =>
      { row with
        quantityAllocated := max 0 (row.quantityAllocated - qty)
        updatedAt := stamp.getD row.updatedAt } }

/-- The update of `_unwind_allocated`, which has no floor. -/
def subtractAllocated (itemId binId : ℕ) (qty : ℤ) (db : Db) : Db :=
  { db with
    inventory := db.inventory.update
      (fun row => row.itemId = itemId ∧ row.binId = binId) fun row =>
      { row with quantityAllocated := row.quantityAllocated - qty } }

/-- `SET quantity_on_hand = GREATEST(0, quantity_on_hand - :qty)` on every row
of the bin. -/
def writeOff (now : ℕ) (itemId binId : ℕ) (qty : ℤ) (db : Db) : Db :=
  { db with
    inventory := db.inventory.update
      (fun row => row.itemId = itemId ∧ row.binId = binId) fun row =>
      { row with
        quantityOnHand := max 0 (row.quantityOnHand - qty)
        updatedAt := now } }

/-- The update of `record_admin_pick`: rows of the bin with `qty` available. -/
def takeAvailable (now : ℕ) (itemId binId : ℕ) (qty : ℤ) (db : Db) : Db :=
  { db with
    inventory := db.inventory.update
      (fun row => row.itemId = itemId ∧ row.binId = binId ∧ qty ≤ row.available)
      fun row =>
      { row with
        quantityOnHand := row.quantityOnHand - qty
        updatedAt := now } }

/-- `SET quantity_on_hand = quantity_on_hand + :qty, updated_at = NOW() WHERE
inventory_id = :id`; units that leave are added negatively. -/
def addOnHand (now : ℕ) (qty : ℤ) (inventoryId : ℕ) (db : Db) : Db :=
  { db with
    inventory := db.inventory.updateKey inventoryId fun row =>
      { row with
        quantityOnHand := row.quantityOnHand + qty
        updatedAt := now } }

/-- The row `add_inventory` looks for. -/
def existingRow? (db : Db) (itemId binId : ℕ) (lotNumber : Option String) : Option InventoryRow :=
  db.inventory.rows.find? fun row =>
    row.itemId = itemId ∧ row.binId = binId ∧ row.lotNumber = lotNumber

/-- `add_inventory`: increment the lot's row, or create it. -/
def addInventory (now : ℕ) (itemId binId warehouseId : ℕ) (quantity : ℤ)
    (lotNumber : Option String) (db : Db) : Db :=
  match existingRow? db itemId binId lotNumber with
  | some existing =>
      { db with
        inventory := db.inventory.updateKey existing.inventoryId fun row =>
          { row with
            quantityOnHand := row.quantityOnHand + quantity
            updatedAt := now } }
  | none =>
      { db with
        inventory := db.inventory.insert fun inventoryId =>
          { inventoryId := inventoryId
            itemId := itemId
            binId := binId
            warehouseId := warehouseId
            quantityOnHand := quantity
            lotNumber := lotNumber
            updatedAt := now } }

/-- A walk over rows that adds `sign` times the take to each row's reservation:
`sign` is `1` for a reservation and `-1` for a release. -/
def applyTakes (stamp : Option ℕ) (sign : ℤ) (db : Db)
    (takes : List (InventoryRow × ℤ)) : Db :=
  run (fun db take => addAllocated stamp (sign * take.2) take.1.inventoryId db) db takes

/-! ## Totals over a set of places -/

/-- Units on hand at the places. -/
def onHandOver (places : Place → Bool) (db : Db) : ℤ :=
  db.inventory.sum fun row => if places row.place then row.quantityOnHand else 0

/-- Reserved units at the places. -/
def allocatedOver (places : Place → Bool) (db : Db) : ℤ :=
  db.inventory.sum fun row =>
    if places row.place then row.quantityAllocated else 0

/-- The places of one item in one bin. -/
def itemInBin (itemId binId : ℕ) (place : Place) : Bool :=
  place.itemId = itemId ∧ place.binId = binId

/-- The places of one item in one warehouse. -/
def itemInWarehouse (itemId warehouseId : ℕ) (place : Place) : Bool :=
  place.itemId = itemId ∧ place.warehouseId = warehouseId

/-- All places of one item. -/
def ofItem (itemId : ℕ) (place : Place) : Bool := place.itemId = itemId

def onHandAt (db : Db) (itemId binId : ℕ) : ℤ := onHandOver (itemInBin itemId binId) db

/-- Units of an item on hand anywhere. -/
def onHandOf (db : Db) (itemId : ℕ) : ℤ := onHandOver (ofItem itemId) db

def allocatedAt (db : Db) (itemId binId : ℕ) : ℤ := allocatedOver (itemInBin itemId binId) db

def allocatedIn (db : Db) (itemId warehouseId : ℕ) : ℤ :=
  allocatedOver (itemInWarehouse itemId warehouseId) db

/-- What a floored decrement by `qty` takes off the units on hand of a bin's
rows: each row gives `qty`, or all it has. -/
def takenFrom (places : Place → Bool) (itemId binId : ℕ) (qty : ℤ) (db : Db) : ℤ :=
  db.inventory.sum fun row =>
    if (row.itemId = itemId ∧ row.binId = binId) ∧ places row.place then
      min row.quantityOnHand qty
    else 0

/-- What an unfloored decrement by `qty` takes off the reservations of a bin's rows: `qty`
from each. -/
def subtractedFrom (places : Place → Bool) (itemId binId : ℕ) (qty : ℤ)
    (db : Db) : ℤ :=
  db.inventory.sum fun row =>
    if (row.itemId = itemId ∧ row.binId = binId) ∧ places row.place then qty
    else 0

section Totals

variable (places : Place → Bool) (db : Db) (stamp : Option ℕ)
  (now itemId binId warehouseId : ℕ) (qty : ℤ)

/-- An update that leaves the rows where they are lowers a total by what it
takes off the matching rows. -/
theorem sum_update_over (table : Table InventoryRow InventoryRow.inventoryId)
    (test : InventoryRow → Bool) (set : InventoryRow → InventoryRow)
    (hset : ∀ row, (set row).inventoryId = row.inventoryId)
    (hplace : ∀ row, (set row).place = row.place) (units : InventoryRow → ℤ) :
    (table.update test set hset).sum
        (fun row => if places row.place then units row else 0) =
      table.sum (fun row => if places row.place then units row else 0) -
        table.sum fun row =>
          if test row ∧ places row.place then units row - units (set row)
          else 0 := by
  rw [Table.sum_update, ← Table.sum_add, ← Table.sum_sub]
  refine Table.sum_congr _ fun row _ => ?_
  by_cases hin : places row.place <;> by_cases htest : test row <;>
    simp [hin, htest, hplace]

theorem allocatedOver_addAllocated (inventoryId : ℕ) :
    allocatedOver places (addAllocated stamp qty inventoryId db) =
      allocatedOver places db +
        (db.inventory.find? inventoryId).elim 0 fun row =>
          if places row.place then qty else 0 := by
  rw [← Table.sum_at_key]
  simp only [allocatedOver, addAllocated, Table.updateKey]
  rw [sum_update_over]
  · rw [← Table.sum_sub, ← Table.sum_add]
    refine Table.sum_congr _ fun row _ => ?_
    by_cases hin : places row.place <;>
      by_cases hkey : row.inventoryId = inventoryId <;> simp [hin, hkey]
  · exact fun _ => rfl

/-- Adding to a stored row adds to the total of its place. -/
theorem onHandOver_addOnHand (hstored : row ∈ db.inventory.rows) :
    onHandOver places (addOnHand now qty row.inventoryId db) =
      onHandOver places db + if places row.place then qty else 0 := by
  have hfind : db.inventory.find? row.inventoryId = some row :=
    Table.find?_eq_some_iff.mpr ⟨hstored, rfl⟩
  simp only [onHandOver, addOnHand]
  rw [Table.sum_updateKey, hfind, Option.elim_some]
  have hplace : ({ row with
      quantityOnHand := row.quantityOnHand + qty
      updatedAt := now } : InventoryRow).place = row.place := rfl
  rw [hplace]
  by_cases hin : places row.place <;> simp [hin]

/-- A floored decrement takes the smaller of what is held and what is asked. -/
theorem sub_floor (held asked : ℤ) : held - max 0 (held - asked) = min held asked := by
  omega

theorem onHandOver_takePicked (picked allocated : ℤ) :
    onHandOver places (takePicked now itemId binId picked allocated db) =
      onHandOver places db - takenFrom places itemId binId picked db := by
  simp only [onHandOver, takePicked]
  rw [sum_update_over]
  · simp only [sub_floor, decide_eq_true_eq, takenFrom]
  · exact fun _ => rfl

theorem onHandOver_subtractAllocated :
    onHandOver places (subtractAllocated itemId binId qty db) =
      onHandOver places db := by
  simp only [onHandOver, subtractAllocated]
  rw [sum_update_over]
  · simp
  · exact fun _ => rfl

theorem allocatedOver_subtractAllocated :
    allocatedOver places (subtractAllocated itemId binId qty db) =
      allocatedOver places db - subtractedFrom places itemId binId qty db := by
  simp only [allocatedOver, subtractAllocated]
  rw [sum_update_over]
  · simp only [sub_sub_cancel, decide_eq_true_eq, subtractedFrom]
  · exact fun _ => rfl

theorem onHandOver_writeOff :
    onHandOver places (writeOff now itemId binId qty db) =
      onHandOver places db - takenFrom places itemId binId qty db := by
  simp only [onHandOver, writeOff]
  rw [sum_update_over]
  · simp only [sub_floor, decide_eq_true_eq, takenFrom]
  · exact fun _ => rfl

/-- The admin pick takes `qty` from every row of the bin that has it
available. -/
theorem onHandOver_takeAvailable :
    onHandOver places (takeAvailable now itemId binId qty db) =
      onHandOver places db - db.inventory.sum fun row =>
        if (row.itemId = itemId ∧ row.binId = binId ∧ qty ≤ row.available) ∧
            places row.place then qty
        else 0 := by
  simp only [onHandOver, takeAvailable]
  rw [sum_update_over]
  · simp only [sub_sub_cancel, decide_eq_true_eq]
  · exact fun _ => rfl

theorem existingRow?_spec {itemId binId : ℕ} {lotNumber : Option String}
    {row : InventoryRow} (hrow : existingRow? db itemId binId lotNumber = some row) :
    row ∈ db.inventory.rows ∧ row.itemId = itemId ∧ row.binId = binId := by
  have hfound := List.find?_some hrow
  simp only [decide_eq_true_eq] at hfound
  exact ⟨List.mem_of_find?_eq_some hrow, hfound.1, hfound.2.1⟩

/-- Stock arriving at `(item, bin)` raises the units of the places that bin belongs to, in
whichever warehouse its row is recorded. -/
theorem onHandOver_addInventory_bin (inside : Bool)
    (hinside : ∀ recorded, places ⟨itemId, binId, recorded⟩ = inside) (quantity : ℤ)
    (lotNumber : Option String) :
    onHandOver places (addInventory now itemId binId warehouseId quantity lotNumber db) =
      onHandOver places db + if inside then quantity else 0 := by
  cases hrow : existingRow? db itemId binId lotNumber with
  | none =>
      simp only [onHandOver, addInventory, hrow, Table.sum_insert, InventoryRow.place, hinside]
  | some row =>
      obtain ⟨hmem, hitem, hbin⟩ := existingRow?_spec db hrow
      have hfind := Table.find?_eq_some_iff.mpr ⟨hmem, rfl⟩
      simp only [onHandOver, addInventory, hrow, Table.sum_updateKey, hfind,
        Option.elim_some, InventoryRow.place, hitem, hbin, hinside]
      cases inside <;> simp

theorem onHandAt_addInventory (quantity : ℤ) (lotNumber : Option String) (otherItem otherBin : ℕ) :
    onHandAt (addInventory now itemId binId warehouseId quantity lotNumber db) otherItem otherBin =
      onHandAt db otherItem otherBin +
        if itemId = otherItem ∧ binId = otherBin then quantity else 0 := by
  have harrived := onHandOver_addInventory_bin (itemInBin otherItem otherBin) db now itemId
    binId warehouseId (itemId = otherItem ∧ binId = otherBin) (fun _ => rfl) quantity lotNumber
  simpa [onHandAt] using harrived

/-- Stock arriving for an item raises its total and no other item's. -/
theorem onHandOf_addInventory (quantity : ℤ) (lotNumber : Option String) (otherItem : ℕ) :
    onHandOf (addInventory now itemId binId warehouseId quantity lotNumber db) otherItem =
      onHandOf db otherItem + if itemId = otherItem then quantity else 0 := by
  have harrived := onHandOver_addInventory_bin (ofItem otherItem) db now itemId binId
    warehouseId (itemId = otherItem) (fun _ => rfl) quantity lotNumber
  simpa [onHandOf] using harrived

@[simp]
theorem allocatedOver_addInventory (quantity : ℤ) (lotNumber : Option String) :
    allocatedOver places (addInventory now itemId binId warehouseId quantity lotNumber db) =
      allocatedOver places db := by
  cases hrow : existingRow? db itemId binId lotNumber with
  | none => simp [allocatedOver, addInventory, hrow, Table.sum_insert]
  | some row =>
      simp only [allocatedOver, addInventory, hrow, Table.updateKey]
      rw [sum_update_over]
      · simp
      · exact fun _ => rfl

end Totals

/-! ## Walks -/

section Walks

variable (places : Place → Bool) (stamp : Option ℕ) (sign : ℤ)

/-- Statements on the reservation of a row leave every row where it is. -/
theorem find?_place_addAllocated (db : Db) (qty : ℤ) (inventoryId k : ℕ) :
    ((addAllocated stamp qty inventoryId db).inventory.find? k).map InventoryRow.place =
      (db.inventory.find? k).map InventoryRow.place := by
  simp only [addAllocated, Table.find?_updateKey]
  by_cases h : k = inventoryId
  · subst h
    rw [if_pos rfl, Option.map_map]
    rfl
  · rw [if_neg h]

/-- A walk over inventory rows leaves the lines alone. -/
@[simp]
theorem applyTakes_salesOrderLines (db : Db) (takes : List (InventoryRow × ℤ)) :
    (applyTakes stamp sign db takes).salesOrderLines = db.salesOrderLines := by
  induction takes generalizing db with
  | nil => rfl
  | cons take rest ih => exact ih _

@[simp]
theorem applyTakes_bins (db : Db) (takes : List (InventoryRow × ℤ)) :
    (applyTakes stamp sign db takes).bins = db.bins := by
  apply run_unchanged Db.bins
  intro state take
  rfl

/-- A walk that moves the row of each take moves each row by what it takes there. -/
theorem walk_rows {step : Db → InventoryRow × ℤ → Db}
    (moved : ℤ → Bool → InventoryRow → InventoryRow)
    (hstep : ∀ db take, (step db take).inventory.rows = db.inventory.rows.map fun row =>
      if row.inventoryId = take.1.inventoryId then moved take.2 true row else row)
    (hkey : ∀ qty row, (moved qty true row).inventoryId = row.inventoryId)
    (hnone : ∀ row, moved 0 false row = row)
    (hmore : ∀ qty more taken row,
      moved more taken (moved qty true row) = moved (qty + more) true row)
    (db : Db) (takes : List (InventoryRow × ℤ)) :
    (run step db takes).inventory.rows = db.inventory.rows.map fun row =>
      moved (takenAt InventoryRow.inventoryId row.inventoryId takes)
        (takes.any fun take => take.1.inventoryId = row.inventoryId) row := by
  induction takes generalizing db with
  | nil => exact (List.map_id'' hnone _).symm
  | cons take rest ih =>
      refine (ih (step db take)).trans ?_
      rw [hstep, List.map_map]
      refine List.map_congr_left fun row _ => ?_
      rw [Function.comp_apply]
      by_cases htaken : row.inventoryId = take.1.inventoryId
      · rw [if_pos htaken, hmore, hkey, takenAt_cons, if_pos htaken.symm, List.any_cons,
          decide_eq_true htaken.symm, Bool.true_or]
      · have hother : ¬ take.1.inventoryId = row.inventoryId := fun h => htaken h.symm
        rw [if_neg htaken, takenAt_cons, if_neg hother, zero_add, List.any_cons,
          decide_eq_false hother, Bool.false_or]

/-- A walk moves the reservation of each row by what it takes there, and stamps the rows
it takes from. -/
theorem applyTakes_rows (db : Db) (takes : List (InventoryRow × ℤ)) :
    (applyTakes stamp sign db takes).inventory.rows =
      db.inventory.rows.map fun row =>
        { row with
          quantityAllocated := row.quantityAllocated +
            sign * takenAt InventoryRow.inventoryId row.inventoryId takes
          updatedAt :=
            if takes.any fun take => take.1.inventoryId = row.inventoryId then
              stamp.getD row.updatedAt
            else row.updatedAt } := by
  refine walk_rows (fun qty taken row =>
      { row with
        quantityAllocated := row.quantityAllocated + sign * qty
        updatedAt := if taken then stamp.getD row.updatedAt else row.updatedAt })
    (fun db take => ?_) (fun _ _ => rfl) (fun row => by simp) (fun qty more taken row => ?_) db takes
  · simp [addAllocated, Table.updateKey, Table.update]
  · cases stamp <;> simp [mul_add, add_assoc]

/-- Up to the stamps, a walk only moves reservations. -/
theorem applyTakes_unstamped (db : Db) (takes : List (InventoryRow × ℤ)) :
    (applyTakes stamp sign db takes).inventory.rows.map InventoryRow.unstamped =
      db.inventory.rows.map fun row =>
        InventoryRow.unstamped { row with
          quantityAllocated := row.quantityAllocated +
            sign * takenAt InventoryRow.inventoryId row.inventoryId takes } := by
  rw [applyTakes_rows, List.map_map]
  rfl

theorem applyTakes_pickTasks (db : Db) (takes : List (InventoryRow × ℤ)) :
    (applyTakes stamp sign db takes).pickTasks = db.pickTasks := by
  apply run_unchanged Db.pickTasks
  intro state take
  rfl

/-- A walk over stored rows moves the reserved units of the places by its takes
there. -/
theorem allocatedOver_applyTakes (db : Db) (takes : List (InventoryRow × ℤ))
    (hstored : ∀ take ∈ takes,
      (db.inventory.find? take.1.inventoryId).map InventoryRow.place = some take.1.place) :
    allocatedOver places (applyTakes stamp sign db takes) =
      allocatedOver places db +
        (takes.map fun take =>
          if places take.1.place then sign * take.2 else 0).sum := by
  induction takes generalizing db with
  | nil => simp [applyTakes, run]
  | cons take rest ih =>
      have hrest : ∀ other ∈ rest,
          ((addAllocated stamp (sign * take.2) take.1.inventoryId db).inventory.find?
            other.1.inventoryId).map InventoryRow.place =
              some other.1.place := fun other hother => by
        rw [find?_place_addAllocated]
        exact hstored other (List.mem_cons_of_mem _ hother)
      have hhead := hstored take List.mem_cons_self
      obtain ⟨row, hrow, hplace⟩ := Option.map_eq_some_iff.mp hhead
      calc
        allocatedOver places (applyTakes stamp sign db (take :: rest)) =
            allocatedOver places
              (applyTakes stamp sign (addAllocated stamp (sign * take.2) take.1.inventoryId db)
                rest) := rfl
        _ = _ := by
            rw [ih _ hrest, allocatedOver_addAllocated, hrow, Option.elim_some,
              hplace, List.map_cons, List.sum_cons, add_assoc]

end Walks

/-! ## Walks over the rows of one item -/

theorem mem_reservableRows {db : Db} :
    row ∈ reservableRows db itemId warehouseId ↔
      row ∈ db.inventory.rows ∧ row.itemId = itemId ∧
        row.warehouseId = warehouseId ∧ 0 < row.available := by
  simp [reservableRows, mem_orderBy, Table.select, List.mem_filter, InventoryRow.available]

theorem mem_allocatedRows {db : Db} :
    row ∈ allocatedRows db itemId warehouseId ↔
      row ∈ db.inventory.rows ∧ row.itemId = itemId ∧
        row.warehouseId = warehouseId ∧ 0 < row.quantityAllocated := by
  simp [allocatedRows, mem_orderBy, Table.select, List.mem_filter]

theorem orderBy_select_keys (precedes : InventoryRow → InventoryRow → Prop)
    [DecidableRel precedes] (db : Db) (test : InventoryRow → Bool) :
    ((orderBy precedes (db.inventory.select test)).map InventoryRow.inventoryId).Nodup :=
  ((orderBy_perm _ _).map InventoryRow.inventoryId).nodup_iff.mpr
    ((List.filter_sublist.map InventoryRow.inventoryId).nodup db.inventory.keys_nodup)

theorem reservableRows_keys (db : Db) (itemId warehouseId : ℕ) :
    ((reservableRows db itemId warehouseId).map InventoryRow.inventoryId).Nodup :=
  orderBy_select_keys _ db _

theorem allocatedRows_keys (db : Db) (itemId warehouseId : ℕ) :
    ((allocatedRows db itemId warehouseId).map InventoryRow.inventoryId).Nodup :=
  orderBy_select_keys _ db _

/-- A walk over rows of one item at one warehouse moves their reserved total by
what it draws, and no other total. -/
theorem allocatedIn_applyTakes {stamp : Option ℕ} (db : Db) (sign : ℤ)
    (capacity : InventoryRow → ℤ) (need : ℤ) {rows : List InventoryRow}
    (hrows : ∀ row ∈ rows, row ∈ db.inventory.rows ∧ row.itemId = itemId ∧
      row.warehouseId = warehouseId) (otherItem otherWarehouse : ℕ) :
    allocatedIn (applyTakes stamp sign db (draws capacity need rows)) otherItem otherWarehouse =
      allocatedIn db otherItem otherWarehouse +
        if itemId = otherItem ∧ warehouseId = otherWarehouse then
          sign * drawn capacity need rows
        else 0 := by
  have hstored : ∀ take ∈ draws capacity need rows,
      (db.inventory.find? take.1.inventoryId).map InventoryRow.place =
        some take.1.place := by
    intro take htake
    have hrow := (hrows take.1 (draws_mem capacity htake)).1
    rw [Table.find?_eq_some_iff.mpr ⟨hrow, rfl⟩, Option.map_some]
  rw [allocatedIn, allocatedOver_applyTakes _ _ _ _ _ hstored, allocatedIn]
  congr 1
  have hplace : ∀ take ∈ draws capacity need rows,
      (if itemInWarehouse otherItem otherWarehouse take.1.place then
          sign * take.2 else 0) =
        if itemId = otherItem ∧ warehouseId = otherWarehouse then
          sign * take.2 else 0 := by
    intro take htake
    obtain ⟨-, hitem, hwarehouse⟩ := hrows take.1 (draws_mem capacity htake)
    simp [itemInWarehouse, InventoryRow.place, hitem, hwarehouse]
  rw [List.map_congr_left hplace]
  by_cases hhere : itemId = otherItem ∧ warehouseId = otherWarehouse
  · simp only [if_pos hhere, drawn]
    exact List.sum_map_mul_left ..
  · simp [if_neg hhere]

end Inventory

end SentryWms

import Mathlib.Algebra.BigOperators.Ring.List
import SentryWms.TransferOrders.StateMachine

/-!
# Stock of a transfer

The inventory walks of the transfer-order routes: committing stock to a line,
giving a commitment back, and moving approved units from the source warehouse to
the staging bin of the destination.  Each walk visits the rows of one item at one
warehouse in lock order, and each moves the reserved units there by what it was
asked for, or by all there is.
-/

namespace SentryWms.TransferOrders

open Relational Inventory

/-! ## Statements -/

/-- The rows of an item at a warehouse, in lock order. -/
def warehouseRows (db : Db) (itemId warehouseId : ℕ) : List InventoryRow :=
  orderBy (fun left right => left.inventoryId ≤ right.inventoryId)
    (db.inventory.select fun row => row.itemId = itemId ∧ row.warehouseId = warehouseId)

/-- `max(0, quantity_on_hand - quantity_allocated)`. -/
def spare (row : InventoryRow) : ℤ := max 0 row.available

/-- `total_available` of the import. -/
def totalAvailable (db : Db) (itemId warehouseId : ℕ) : ℤ :=
  ((warehouseRows db itemId warehouseId).map spare).sum

/-- The reserve loop of the import.  A row with nothing to spare takes part with
a take of zero, where the source skips it. -/
def reserveInventory (itemId warehouseId : ℕ) (committed : ℤ) (db : Db) : Db :=
  applyTakes none 1 db (draws spare committed (warehouseRows db itemId warehouseId))

/-- `_release_inventory_allocation`. -/
def releaseInventoryAllocation (itemId warehouseId : ℕ) (delta : ℤ) (db : Db) : Db :=
  applyTakes none (-1) db
    (draws InventoryRow.quantityAllocated delta (allocatedRows db itemId warehouseId))

/-- `min(quantity_allocated, quantity_on_hand)`. -/
def consumable (row : InventoryRow) : ℤ := min row.quantityAllocated row.quantityOnHand

/-- Take units off the reservation and off the shelf of one row. -/
def consume (now : ℕ) (db : Db) (take : InventoryRow × ℤ) : Db :=
  { db with
    inventory := db.inventory.updateKey take.1.inventoryId fun row =>
      { row with
        quantityAllocated := row.quantityAllocated - take.2
        quantityOnHand := row.quantityOnHand - take.2
        updatedAt := now } }

/-- The takes of `_decrement_source_inventory`. -/
def consumedTakes (db : Db) (itemId warehouseId : ℕ) (qty : ℤ) : List (InventoryRow × ℤ) :=
  draws consumable qty (allocatedRows db itemId warehouseId)

/-- `_decrement_source_inventory`. -/
def decrementSourceInventory (now itemId warehouseId : ℕ) (qty : ℤ) (db : Db) :
    Except ServiceError Db := do
  let remaining := qty - drawn consumable qty (allocatedRows db itemId warehouseId)
  require (remaining ≤ 0)
    (.valueError
      s!"source inventory under-funded: still {remaining} units to deduct for item_id={itemId} at warehouse_id={warehouseId}")
  pure (run (consume now) db (consumedTakes db itemId warehouseId qty))

/-- The first staging bin of a warehouse. -/
def stagingBin? (db : Db) (warehouseId : ℕ) : Option Bin :=
  (orderBy (fun left right => left.binId ≤ right.binId)
    (db.bins.select fun bin => bin.warehouseId = warehouseId ∧ bin.binType = .binStaging)).head?

/-- `_credit_destination_inventory`. -/
def creditDestinationInventory (now itemId destWarehouseId : ℕ) (qty : ℤ)
    (db : Db) : Except ServiceError Db := do
  let bin ← orThrow (stagingBin? db destWarehouseId)
    (.valueError
      s!"destination warehouse_id={destWarehouseId} has no Staging bin; add one before approving the transfer.")
  pure (addInventory now itemId bin.binId destWarehouseId qty none db)

/-! ## Rows after a walk -/

/-- No row is reserved below zero. -/
def AllocatedNonneg (db : Db) : Prop := ∀ row ∈ db.inventory.rows, 0 ≤ row.quantityAllocated

/-- A consuming walk lowers reservation and shelf of each row by what it takes
there. -/
theorem consume_rows (now : ℕ) (db : Db) (takes : List (InventoryRow × ℤ)) :
    (run (consume now) db takes).inventory.rows =
      db.inventory.rows.map fun row =>
        { row with
          quantityAllocated := row.quantityAllocated -
            takenAt InventoryRow.inventoryId row.inventoryId takes
          quantityOnHand := row.quantityOnHand -
            takenAt InventoryRow.inventoryId row.inventoryId takes
          updatedAt :=
            if takes.any fun take => take.1.inventoryId = row.inventoryId then now
            else row.updatedAt } := by
  refine walk_rows (fun qty taken row =>
      { row with
        quantityAllocated := row.quantityAllocated - qty
        quantityOnHand := row.quantityOnHand - qty
        updatedAt := if taken then now else row.updatedAt })
    (fun db take => ?_) (fun _ _ => rfl) (fun row => by simp) (fun qty more taken row => ?_) db takes
  · simp [consume, Table.updateKey, Table.update]
  · simp [sub_sub]

/-- Walks that read distinct stored rows. -/
theorem warehouseRows_keys (db : Db) (itemId warehouseId : ℕ) :
    ((warehouseRows db itemId warehouseId).map InventoryRow.inventoryId).Nodup :=
  orderBy_select_keys _ db _

variable {db : Db} {itemId warehouseId : ℕ} {row : InventoryRow}

theorem mem_warehouseRows :
    row ∈ warehouseRows db itemId warehouseId ↔
      row ∈ db.inventory.rows ∧ row.itemId = itemId ∧
        row.warehouseId = warehouseId := by
  simp [warehouseRows, mem_orderBy, Table.select, List.mem_filter]

/-- What a release takes from a stored row is between nothing and its
reservation. -/
theorem released_bounds (hnonneg : AllocatedNonneg db) (itemId warehouseId : ℕ)
    (delta : ℤ) (hrow : row ∈ db.inventory.rows) :
    0 ≤ takenAt InventoryRow.inventoryId row.inventoryId
        (draws InventoryRow.quantityAllocated delta (allocatedRows db itemId warehouseId)) ∧
      takenAt InventoryRow.inventoryId row.inventoryId
        (draws InventoryRow.quantityAllocated delta
          (allocatedRows db itemId warehouseId)) ≤ row.quantityAllocated := by
  have hcap : ∀ source ∈ allocatedRows db itemId warehouseId,
      0 ≤ source.quantityAllocated :=
    fun source hsource => (mem_allocatedRows.mp hsource).2.2.2.le
  cases takenAt_draws InventoryRow.quantityAllocated delta
    (allocatedRows_keys db itemId warehouseId)
    row.inventoryId with
  | inl hzero => exact ⟨hzero.ge, hzero.le.trans (hnonneg row hrow)⟩
  | inr hfound =>
      obtain ⟨found, hkey, htake⟩ := hfound
      have hsame : found = row :=
        List.inj_on_of_nodup_map db.inventory.keys_nodup
          (mem_allocatedRows.mp (draws_mem _ htake)).1 hrow hkey
      refine ⟨draws_nonneg _ hcap htake, ?_⟩
      exact (draws_le _ htake).trans (congrArg _ hsame).le

/-- What an approval takes from a stored row is within whatever bounds what it can take
from a row. -/
theorem consumed_le_of (itemId warehouseId : ℕ) (qty : ℤ) {bound : InventoryRow → ℤ}
    (hrow : row ∈ db.inventory.rows) (hbound : 0 ≤ bound row)
    (hle : consumable row ≤ bound row) :
    takenAt InventoryRow.inventoryId row.inventoryId
      (consumedTakes db itemId warehouseId qty) ≤ bound row := by
  cases takenAt_draws consumable qty
    (allocatedRows_keys db itemId warehouseId) row.inventoryId with
  | inl hzero => exact hzero.le.trans hbound
  | inr hfound =>
      obtain ⟨found, hkey, htake⟩ := hfound
      have hsame : found = row :=
        List.inj_on_of_nodup_map db.inventory.keys_nodup
          (mem_allocatedRows.mp (draws_mem _ htake)).1 hrow hkey
      have htaken : takenAt InventoryRow.inventoryId row.inventoryId
          (consumedTakes db itemId warehouseId qty) ≤ consumable found :=
        draws_le _ htake
      exact htaken.trans (hsame ▸ hle)

theorem consumed_le (hnonneg : AllocatedNonneg db) (itemId warehouseId : ℕ) (qty : ℤ)
    (hrow : row ∈ db.inventory.rows) :
    takenAt InventoryRow.inventoryId row.inventoryId
      (consumedTakes db itemId warehouseId qty) ≤ row.quantityAllocated :=
  consumed_le_of itemId warehouseId qty hrow (hnonneg row hrow) (min_le_left _ _)

/-- What a reservation takes from a stored row is not negative. -/
theorem reserved_nonneg (db : Db) (itemId warehouseId : ℕ) (committed : ℤ) (k : ℕ) :
    0 ≤ takenAt InventoryRow.inventoryId k
      (draws spare committed (warehouseRows db itemId warehouseId)) := by
  cases takenAt_draws spare committed
    (warehouseRows_keys db itemId warehouseId) k with
  | inl hzero => exact hzero.ge
  | inr hfound =>
      obtain ⟨_, _, htake⟩ := hfound
      exact draws_nonneg _ (fun _ _ => le_max_left _ _) htake

theorem AllocatedNonneg.release (hnonneg : AllocatedNonneg db) (itemId warehouseId : ℕ)
    (delta : ℤ) :
    AllocatedNonneg (releaseInventoryAllocation itemId warehouseId delta db) := by
  intro released hreleased
  rw [releaseInventoryAllocation, applyTakes_rows] at hreleased
  simp only [Option.getD_none, ite_self] at hreleased
  obtain ⟨row, hrow, rfl⟩ := List.mem_map.mp hreleased
  have hbounds := released_bounds hnonneg itemId warehouseId delta hrow
  dsimp only
  linarith

theorem AllocatedNonneg.reserve (hnonneg : AllocatedNonneg db) (itemId warehouseId : ℕ)
    (committed : ℤ) :
    AllocatedNonneg (reserveInventory itemId warehouseId committed db) := by
  intro reserved hreserved
  rw [reserveInventory, applyTakes_rows] at hreserved
  simp only [Option.getD_none, ite_self] at hreserved
  obtain ⟨row, hrow, rfl⟩ := List.mem_map.mp hreserved
  have hadded := reserved_nonneg db itemId warehouseId committed row.inventoryId
  have hheld := hnonneg row hrow
  dsimp only
  linarith

theorem AllocatedNonneg.consume (hnonneg : AllocatedNonneg db)
    (now itemId warehouseId : ℕ) (qty : ℤ) :
    AllocatedNonneg
      (run (consume now) db (consumedTakes db itemId warehouseId qty)) := by
  intro consumed hconsumed
  rw [consume_rows] at hconsumed
  obtain ⟨row, hrow, rfl⟩ := List.mem_map.mp hconsumed
  have htaken := consumed_le hnonneg itemId warehouseId qty hrow
  dsimp only
  linarith

theorem AllocatedNonneg.addInventory (hnonneg : AllocatedNonneg db)
    (now itemId binId warehouseId : ℕ) (quantity : ℤ) (lotNumber : Option String) :
    AllocatedNonneg
      (addInventory now itemId binId warehouseId quantity lotNumber db) := by
  intro added hadded
  unfold Inventory.addInventory at hadded
  split at hadded
  · obtain ⟨row, hrow, rfl⟩ := List.mem_map.mp hadded
    have hheld := hnonneg row hrow
    split <;> exact hheld
  · cases List.mem_append.mp hadded with
    | inl hold => exact hnonneg added hold
    | inr hnew => rw [List.mem_singleton.mp hnew]

/-! ## Reserved units after a walk -/

/-- The rows that have something to release hold all that is reserved. -/
theorem sum_allocatedRows (hnonneg : AllocatedNonneg db) (itemId warehouseId : ℕ) :
    ((allocatedRows db itemId warehouseId).map InventoryRow.quantityAllocated).sum =
      allocatedIn db itemId warehouseId := by
  have hperm := (orderBy_perm (fun left right : InventoryRow =>
    left.inventoryId ≤ right.inventoryId) (db.inventory.select fun row =>
      row.itemId = itemId ∧ row.warehouseId = warehouseId ∧
        0 < row.quantityAllocated)).map InventoryRow.quantityAllocated
  rw [allocatedRows, hperm.sum_eq]
  simp only [allocatedIn, allocatedOver, Table.select, Table.sum]
  have hheld : ∀ row ∈ db.inventory.rows, 0 ≤ row.quantityAllocated := hnonneg
  generalize db.inventory.rows = stored at hheld
  induction stored with
  | nil => rfl
  | cons row rest ih =>
      have hrest := ih fun other hother => hheld other (List.mem_cons_of_mem _ hother)
      have hrow := hheld row List.mem_cons_self
      rw [List.map_cons, List.sum_cons, ← hrest, List.filter_cons]
      by_cases hplace : row.itemId = itemId ∧ row.warehouseId = warehouseId
      · by_cases hpos : 0 < row.quantityAllocated
        · simp [hplace, hpos, itemInWarehouse, InventoryRow.place]
        · have hzero : row.quantityAllocated = 0 := by omega
          simp [hplace, hzero, itemInWarehouse, InventoryRow.place]
      · have hother : ¬ (row.itemId = itemId ∧ row.warehouseId = warehouseId ∧
            0 < row.quantityAllocated) := fun h => hplace ⟨h.1, h.2.1⟩
        simp only [itemInWarehouse, InventoryRow.place, hplace, hother,
          decide_false, Bool.false_eq_true, if_false, zero_add]

/-- A commitment no larger than what is available is reserved in full. -/
theorem allocatedIn_reserve (db : Db) {committed : ℤ} (hnonneg : 0 ≤ committed)
    (havailable : committed ≤ totalAvailable db itemId warehouseId)
    (otherItem otherWarehouse : ℕ) :
    allocatedIn (reserveInventory itemId warehouseId committed db) otherItem otherWarehouse =
      allocatedIn db otherItem otherWarehouse +
        if itemId = otherItem ∧ warehouseId = otherWarehouse then committed
        else 0 := by
  rw [reserveInventory, allocatedIn_applyTakes db 1 spare committed
    (fun row hrow => mem_warehouseRows.mp hrow)]
  rw [drawn_eq_need spare hnonneg (fun _ _ => le_max_left _ _) havailable, one_mul]

/-- A release takes what it is asked for off the reserved total, or all of it. -/
theorem allocatedIn_release (hnonneg : AllocatedNonneg db) {delta : ℤ}
    (hdelta : 0 ≤ delta) (otherItem otherWarehouse : ℕ) :
    allocatedIn (releaseInventoryAllocation itemId warehouseId delta db) otherItem otherWarehouse =
      allocatedIn db otherItem otherWarehouse -
        if itemId = otherItem ∧ warehouseId = otherWarehouse then
          min delta (allocatedIn db itemId warehouseId)
        else 0 := by
  have hcap : ∀ row ∈ allocatedRows db itemId warehouseId,
      0 ≤ row.quantityAllocated :=
    fun row hrow => (mem_allocatedRows.mp hrow).2.2.2.le
  rw [releaseInventoryAllocation, allocatedIn_applyTakes db (-1)
    InventoryRow.quantityAllocated delta fun row hrow =>
      ⟨(mem_allocatedRows.mp hrow).1, (mem_allocatedRows.mp hrow).2.1,
        (mem_allocatedRows.mp hrow).2.2.1⟩]
  rw [drawn_eq_min _ hdelta hcap, sum_allocatedRows hnonneg]
  split <;> linarith

/-- An accepted decrement takes exactly the approved units off the reserved
total. -/
theorem allocatedIn_decrement {db' : Db} {now : ℕ} {qty : ℤ} (hqty : 0 ≤ qty)
    (htaken : decrementSourceInventory now itemId warehouseId qty db = .ok db')
    (otherItem otherWarehouse : ℕ) :
    allocatedIn db' otherItem otherWarehouse =
      allocatedIn db otherItem otherWarehouse -
        if itemId = otherItem ∧ warehouseId = otherWarehouse then qty else 0 := by
  simp only [decrementSourceInventory, bind_eq_ok, require_eq_ok, pure_eq_ok] at htaken
  obtain ⟨-, henough, rfl⟩ := htaken
  have hsame : allocatedIn (run (TransferOrders.consume now) db
      (consumedTakes db itemId warehouseId qty)) otherItem otherWarehouse =
      allocatedIn (applyTakes none (-1) db
        (consumedTakes db itemId warehouseId qty)) otherItem otherWarehouse := by
    simp only [allocatedIn, allocatedOver, Table.sum, consume_rows, applyTakes_rows, List.map_map]
    refine congrArg List.sum (List.map_congr_left fun row _ => ?_)
    simp only [Function.comp_apply, InventoryRow.place, neg_one_mul, sub_eq_add_neg]
    rfl
  rw [hsame, consumedTakes, allocatedIn_applyTakes db (-1) consumable qty
    fun row hrow =>
      ⟨(mem_allocatedRows.mp hrow).1, (mem_allocatedRows.mp hrow).2.1,
        (mem_allocatedRows.mp hrow).2.2.1⟩]
  have hdrawn : drawn consumable qty (allocatedRows db itemId warehouseId) ≤ qty :=
    drawn_le consumable hqty
  have hexact : drawn consumable qty (allocatedRows db itemId warehouseId) = qty :=
    le_antisymm hdrawn (by linarith)
  rw [hexact]
  split <;> linarith

end SentryWms.TransferOrders

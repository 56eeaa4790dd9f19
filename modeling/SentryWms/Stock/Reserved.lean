import SentryWms.Stock.Moves
import SentryWms.System

/-!
# Reserved units under stock movements

A movement lowers the units on hand of one row and looks at nothing but the units on hand
there.  So a row that had its reserved units still has them afterwards exactly when the
movement took no more than was available, or put the units back on the row itself.
-/

namespace SentryWms.Stock

open Relational Inventory Receiving

/-- Every row has the units that are reserved on it. -/
def Reserved (db : Db) : Prop :=
  ∀ row ∈ db.inventory.rows, row.quantityAllocated ≤ row.quantityOnHand

/-- Every row has them once the given units have joined it. -/
def ReservedWith (extra : ℕ → ℤ) (db : Db) : Prop :=
  ∀ row ∈ db.inventory.rows, row.quantityAllocated ≤ row.quantityOnHand + extra row.inventoryId

/-- Units that join one row. -/
def joining (inventoryId : ℕ) (quantity : ℤ) (other : ℕ) : ℤ :=
  if other = inventoryId then quantity else 0

variable {db' : Db} {now itemId binId warehouseId fromBinId toBinId : ℕ} {quantity : ℤ}
  {row : InventoryRow} {lotNumber : Option String} {ctx : RequestContext}

theorem reserved_congr {db : Db} (hinventory : db'.inventory = db.inventory) :
    Reserved db' ↔ Reserved db := by
  rw [Reserved, Reserved, hinventory]

theorem reserved_iff_with (db : Db) : Reserved db ↔ ReservedWith (fun _ => 0) db := by
  simp [Reserved, ReservedWith]

/-! ## Single statements -/

variable {inventoryId : ℕ} {error : ServiceError} {request : MoveRequest}
  {decisions : List AdjustmentDecision}

theorem mem_addOnHand {db : Db} :
    row ∈ (addOnHand now quantity inventoryId db).inventory.rows ↔
      ∃ old ∈ db.inventory.rows, row = if old.inventoryId = inventoryId then
        { old with quantityOnHand := old.quantityOnHand + quantity, updatedAt := now }
      else old := by
  change row ∈ List.map _ _ ↔ _
  rw [List.mem_map]
  simp [eq_comm]

theorem reservedWith_addOnHand (extra : ℕ → ℤ) (now inventoryId : ℕ) (quantity : ℤ) (db : Db) :
    ReservedWith extra (addOnHand now quantity inventoryId db) ↔
      ReservedWith (fun other => extra other + joining inventoryId quantity other) db := by
  constructor
  · intro hreserved old hold
    have hnew := hreserved _ (mem_addOnHand.mpr ⟨old, hold, rfl⟩)
    by_cases hkey : old.inventoryId = inventoryId
    · simp only [hkey, if_true] at hnew
      simp only [joining, hkey, if_true]
      omega
    · simp only [hkey, if_false] at hnew
      simp only [joining, hkey, if_false]
      omega
  · intro hreserved row hrow
    obtain ⟨old, hold, rfl⟩ := mem_addOnHand.mp hrow
    have hold' := hreserved old hold
    by_cases hkey : old.inventoryId = inventoryId
    · simp only [joining, hkey, if_true] at hold'
      simp only [hkey, if_true]
      omega
    · simp only [joining, hkey, if_false] at hold'
      simp only [hkey, if_false]
      omega

/-- A new row holds nothing back. -/
theorem reservedWith_insert (extra : ℕ → ℤ) (db : Db) (make : ℕ → InventoryRow)
    (hkey : ∀ value, (make value).inventoryId = value)
    (hfree : (make db.inventory.nextKey).quantityAllocated = 0)
    (hunits : 0 ≤ (make db.inventory.nextKey).quantityOnHand + extra db.inventory.nextKey) :
    ReservedWith extra { db with inventory := db.inventory.insert make hkey } ↔
      ReservedWith extra db := by
  constructor
  · intro hreserved row hrow
    exact hreserved row (List.mem_append_left _ hrow)
  · intro hreserved row hrow
    rcases List.mem_append.mp hrow with hold | hnew
    · exact hreserved row hold
    · rw [List.mem_singleton.mp hnew, hfree, hkey]
      exact hunits

/-- A quantity written over a stored row adds the difference to it. -/
theorem setInventoryQuantity_eq {db : Db} (hrow : row ∈ db.inventory.rows) :
    setInventoryQuantity now row.inventoryId quantity db =
      addOnHand now (quantity - row.quantityOnHand) row.inventoryId db := by
  unfold setInventoryQuantity addOnHand
  congr 1
  ext1
  · apply List.map_congr_left
    intro other hother
    by_cases hkey : other.inventoryId = row.inventoryId
    · have hsame : other = row :=
        List.inj_on_of_nodup_map db.inventory.keys_nodup hother hrow hkey
      simp [hsame]
    · simp [hkey]
  · rfl

/-- Only the row that units leave can be left short. -/
theorem reservedWith_iff {extra : ℕ → ℤ} {db : Db} (hreserved : Reserved db)
    (hrow : row ∈ db.inventory.rows)
    (hothers : ∀ other, other ≠ row.inventoryId → 0 ≤ extra other) :
    ReservedWith extra db ↔
      row.quantityAllocated ≤ row.quantityOnHand + extra row.inventoryId := by
  constructor
  · intro hwith
    exact hwith row hrow
  · intro hself other hother
    by_cases hkey : other.inventoryId = row.inventoryId
    · have hsame : other = row :=
        List.inj_on_of_nodup_map db.inventory.keys_nodup hother hrow hkey
      rw [hsame]
      exact hself
    · have hheld := hreserved other hother
      have hextra := hothers other.inventoryId hkey
      omega

/-- Lowering or raising one row. -/
theorem reserved_addOnHand {db : Db} (hreserved : Reserved db) (hrow : row ∈ db.inventory.rows) :
    Reserved (addOnHand now quantity row.inventoryId db) ↔
      row.quantityAllocated ≤ row.quantityOnHand + quantity := by
  rw [reserved_iff_with, reservedWith_addOnHand, reservedWith_iff hreserved hrow]
  · simp [joining]
  · intro other hother
    simp [joining, hother]

theorem find?_addOnHand {db : Db} {test : InventoryRow → Bool}
    (htest : ∀ (row : InventoryRow) units stamp,
      test { row with quantityOnHand := units, updatedAt := stamp } = test row) :
    ((addOnHand now quantity inventoryId db).inventory.rows.find? test).map
        InventoryRow.inventoryId =
      (db.inventory.rows.find? test).map InventoryRow.inventoryId := by
  change ((db.inventory.rows.map _).find? test).map _ = _
  rw [List.find?_map, Option.map_map]
  have hsame : (test ∘ fun row : InventoryRow =>
      if decide (row.inventoryId = inventoryId) then
        { row with quantityOnHand := row.quantityOnHand + quantity, updatedAt := now }
      else row) = test := by
    funext row
    change test (if decide (row.inventoryId = inventoryId) then _ else row) = test row
    split
    · exact htest row _ now
    · rfl
  rw [hsame]
  apply Option.map_congr
  intro row hrow
  by_cases hkey : row.inventoryId = inventoryId <;> simp [hkey]

/-! ## Units that arrive -/

theorem reserved_addInventory {db : Db} (hpos : 0 < quantity) :
    Reserved (addInventory now itemId binId warehouseId quantity lotNumber db) ↔
      ReservedWith (fun other => ((existingRow? db itemId binId lotNumber).map
        InventoryRow.inventoryId).elim 0 fun key => joining key quantity other) db := by
  rw [reserved_iff_with, addInventory]
  cases hexisting : existingRow? db itemId binId lotNumber with
  | some row =>
      have hadded := reservedWith_addOnHand (fun _ => 0) now row.inventoryId quantity db
      simp only [zero_add] at hadded
      exact hadded
  | none =>
      exact reservedWith_insert _ db _ _ rfl (by simpa using hpos.le)

/-- Units that arrive take nothing from any row. -/
theorem Reserved.addInventory {db : Db} (hreserved : Reserved db) (hpos : 0 < quantity) :
    Reserved (Inventory.addInventory now itemId binId warehouseId quantity lotNumber
      db) := by
  rw [reserved_addInventory hpos]
  intro row hrow
  have hrowReserved := hreserved row hrow
  cases (existingRow? db itemId binId lotNumber).map InventoryRow.inventoryId with
  | none => simpa using hrowReserved
  | some key =>
      simp only [Option.elim_some, joining]
      split <;> omega

/-- Units that leave one row and arrive at another, or at the same. -/
theorem reserved_shift {db : Db} (hreserved : Reserved db)
    (hrow : row ∈ db.inventory.rows) (hpos : 0 < quantity) :
    Reserved (Inventory.addInventory now itemId binId warehouseId quantity lotNumber
        (addOnHand now (-quantity) row.inventoryId db)) ↔
      quantity ≤ row.available ∨
        (existingRow? db itemId binId lotNumber).map InventoryRow.inventoryId =
          some row.inventoryId := by
  have hfound : (existingRow? (addOnHand now (-quantity) row.inventoryId db) itemId binId
      lotNumber).map InventoryRow.inventoryId =
      (existingRow? db itemId binId lotNumber).map InventoryRow.inventoryId :=
    find?_addOnHand fun _ _ _ => rfl
  rw [reserved_addInventory hpos, hfound, reservedWith_addOnHand,
    reservedWith_iff hreserved hrow, InventoryRow.available]
  · cases (existingRow? db itemId binId lotNumber).map InventoryRow.inventoryId with
    | none =>
        simp only [Option.elim_none, joining, if_true, reduceCtorEq, or_false]
        omega
    | some key =>
        simp only [Option.elim_some, joining, if_true, Option.some.injEq]
        by_cases hkey : key = row.inventoryId
        · have hheld := hreserved row hrow
          simp only [hkey, if_true, or_true, iff_true]
          omega
        · have hne : ¬ row.inventoryId = key := fun heq => hkey heq.symm
          simp only [hkey, hne, if_false, or_false]
          omega
  · intro other hother
    cases (existingRow? db itemId binId lotNumber).map InventoryRow.inventoryId with
    | none => simp [joining, hother]
    | some key =>
        simp only [Option.elim_some, joining, hother, if_false, add_zero]
        split <;> omega

/-! ## Requests -/

inductive StockRequest
  | move (request : MoveRequest)
  | confirmPutaway (request : MoveRequest)
  | createInterWarehouseTransfer (request : InterWarehouseTransferRequest)
  | directAdjustment (request : DirectAdjustmentRequest)
  | importAdjustment (row : ImportedAdjustment)
  | applyInventoryUpdate (update : InventoryUpdate)
  | reviewDecision (decision : AdjustmentDecision)

def perform (ctx : RequestContext) (db : Db) : StockRequest → Except ServiceError Db
  | .move request => Stock.move ctx db request
  | .confirmPutaway request => Stock.confirmPutaway ctx db request
  | .createInterWarehouseTransfer request =>
      Stock.createInterWarehouseTransfer ctx db request
  | .directAdjustment request => Stock.directAdjustment ctx db request
  | .importAdjustment row => Stock.importAdjustment ctx db row
  | .applyInventoryUpdate update => pure (Stock.applyInventoryUpdate ctx db update)
  | .reviewDecision decision => Stock.reviewDecision ctx db decision

/-- The row a request lowers has the units available. -/
def TakesAvailable (row? : Option InventoryRow) (quantity : ℤ) : Prop :=
  ∀ row, row? = some row → quantity ≤ row.available

instance (row? : Option InventoryRow) (quantity : ℤ) : Decidable (TakesAvailable row? quantity) :=
  decidable_of_iff (row?.all fun row => quantity ≤ row.available)
    (by simp [TakesAvailable, Option.all_eq_true])

/-- What an adjustment under review leaves on the bin's first row covers what is reserved
there. -/
def CountCovers (db : Db) (adjustment : InventoryAdjustment) : Prop :=
  ∀ row, binRow? db adjustment.itemId adjustment.binId = some row →
    row.quantityAllocated ≤ max 0 (row.quantityOnHand + adjustment.quantityChange)

/-- A request takes no reserved units. -/
def Spares (db : Db) : StockRequest → Prop
  | .move request | .confirmPutaway request =>
      TakesAvailable (existingRow? db request.itemId request.fromBinId request.lotNumber)
        request.quantity
  | .createInterWarehouseTransfer request =>
      ∀ row, binRow? db request.itemId request.fromBinId = some row →
        request.quantity ≤ row.available ∨
          (existingRow? db request.itemId request.toBinId none).map
            InventoryRow.inventoryId = some row.inventoryId
  | .directAdjustment request => request.adjustmentType = .remove →
      TakesAvailable (binRow? db request.itemId request.binId) request.quantity
  | .importAdjustment row => row.qty < 0 →
      TakesAvailable (binRow? db row.itemId row.binId) (-row.qty)
  | .applyInventoryUpdate update =>
      ∀ row, binRow? db update.itemId update.binId = some row →
        row.quantityAllocated ≤ update.targetQuantity
  | .reviewDecision decision => decision.approve = true → ∀ adjustment,
      db.inventoryAdjustments.find? decision.adjustmentId = some adjustment →
        adjustment.status = .adjPending → CountCovers db adjustment

/-- The units of an item in two bins. -/
def unitsInBins (db : Db) (itemId fromBinId toBinId : ℕ) : ℤ :=
  onHandAt db itemId fromBinId + onHandAt db itemId toBinId

/-- The units a request moves stay in its two bins. -/
def KeepsUnits (db db' : Db) : StockRequest → Prop
  | .move request | .confirmPutaway request =>
      unitsInBins db' request.itemId request.fromBinId request.toBinId =
        unitsInBins db request.itemId request.fromBinId request.toBinId
  | .createInterWarehouseTransfer request =>
      unitsInBins db' request.itemId request.fromBinId request.toBinId =
        unitsInBins db request.itemId request.fromBinId request.toBinId
  | _ => True

theorem emitEvent_inventory (ctx : RequestContext) (eventType : EventType)
    (aggregateId warehouseId : ℕ) (db : Db) :
    (emitEvent ctx eventType aggregateId warehouseId db).inventory = db.inventory := by
  unfold emitEvent
  split <;> rfl

theorem releaseBackorders_inventory (ctx : RequestContext) (warehouseId itemId : ℕ) (db : Db) :
    (releaseSatisfiableBackorders ctx warehouseId itemId db).inventory =
      db.inventory := by
  apply run_unchanged Db.inventory
  intro state order
  unfold releaseBackorder
  split
  · exact emitEvent_inventory ..
  · rfl

theorem insertAdjustment_inventory (ctx : RequestContext) (itemId binId warehouseId : ℕ)
    (quantityChange : ℤ) (reasonDetail : String) (db : Db) :
    (insertAdjustment ctx itemId binId warehouseId quantityChange reasonDetail
      db).inventory = db.inventory :=
  emitEvent_inventory ..

theorem binRow?_mem {db : Db} (hrow : binRow? db itemId binId = some row) :
    row ∈ db.inventory.rows ∧ row.itemId = itemId ∧ row.binId = binId := by
  have hfound := List.find?_some hrow
  exact ⟨List.mem_of_find?_eq_some hrow, of_decide_eq_true hfound⟩

/-- A decrement that is accepted takes the units off the row it found. -/
theorem lowerStock_ok {row? : Option InventoryRow} {db : Db}
    (hstored : ∀ row, row? = some row → row ∈ db.inventory.rows)
    (hok : lowerStock now row? quantity error db = .ok db') :
    ∃ row, row? = some row ∧ db' = addOnHand now (-quantity) row.inventoryId db := by
  simp only [lowerStock, bind_eq_ok, orThrow_eq_ok, pure_eq_ok, Option.filter_eq_some_iff] at hok
  obtain ⟨row, ⟨hrow, -⟩, rfl⟩ := hok
  refine ⟨row, hrow, ?_⟩
  rw [setInventoryQuantity_eq (hstored row hrow)]
  congr 1
  omega

theorem takesAvailable_some : TakesAvailable (some row) quantity ↔ quantity ≤ row.available := by
  simp [TakesAvailable]

theorem unitsInBins_congr {db : Db} (hinventory : db'.inventory = db.inventory) :
    unitsInBins db' itemId fromBinId toBinId =
      unitsInBins db itemId fromBinId toBinId := by
  simp only [unitsInBins, onHandAt, onHandOver, hinventory]

/-- Units that leave one bin and arrive at another stay in the two. -/
theorem unitsInBins_shift {db : Db} (hrow : row ∈ db.inventory.rows)
    (hitem : row.itemId = itemId) (hbin : row.binId = fromBinId) :
    unitsInBins (Inventory.addInventory now itemId toBinId warehouseId quantity lotNumber
        (addOnHand now (-quantity) row.inventoryId db)) itemId fromBinId toBinId =
      unitsInBins db itemId fromBinId toBinId := by
  have hlowered : ∀ binId, onHandAt (addOnHand now (-quantity) row.inventoryId db) itemId
      binId = onHandAt db itemId binId + if fromBinId = binId then -quantity else 0 := by
    intro binId
    rw [onHandAt, onHandOver_addOnHand _ _ _ _ hrow, onHandAt]
    simp [itemInBin, InventoryRow.place, hitem, hbin]
  simp only [unitsInBins, onHandAt_addInventory, hlowered, true_and, if_true]
  by_cases hbins : fromBinId = toBinId
  · simp only [hbins, if_true]
    omega
  · have hne : ¬ toBinId = fromBinId := fun heq => hbins heq.symm
    simp only [hbins, hne, if_false]
    omega

/-- What a move does to its two bins. -/
theorem moveInventory_spec {db : Db} (hreserved : Reserved db) (hpos : 0 < quantity)
    (hbins : fromBinId ≠ toBinId)
    (hok : moveInventory now itemId fromBinId toBinId warehouseId quantity lotNumber db = .ok db') :
    (Reserved db' ↔ TakesAvailable (existingRow? db itemId fromBinId lotNumber) quantity) ∧
      unitsInBins db' itemId fromBinId toBinId =
        unitsInBins db itemId fromBinId toBinId := by
  simp only [moveInventory, bind_eq_ok, pure_eq_ok] at hok
  obtain ⟨lowered, hlowered, rfl⟩ := hok
  obtain ⟨row, hrow, rfl⟩ := lowerStock_ok
    (fun row hrow => (existingRow?_spec db hrow).1) hlowered
  obtain ⟨hmem, hitem, hbin⟩ := existingRow?_spec db hrow
  refine ⟨?_, unitsInBins_shift hmem hitem hbin⟩
  rw [reserved_shift hreserved hmem hpos, hrow, takesAvailable_some]
  apply or_iff_left
  intro hsame
  obtain ⟨other, hother, hkey⟩ := Option.map_eq_some_iff.mp hsame
  obtain ⟨hotherMem, -, hotherBin⟩ := existingRow?_spec db hother
  have heq : other = row := List.inj_on_of_nodup_map db.inventory.keys_nodup hotherMem hmem hkey
  exact hbins (by rw [← hbin, ← hotherBin, heq])

/-- A removal from the first row of a bin. -/
theorem lowerStock_reserved {db : Db} (hreserved : Reserved db)
    (hok : lowerStock now (binRow? db itemId binId) quantity error db = .ok db') :
    Reserved db' ↔ TakesAvailable (binRow? db itemId binId) quantity := by
  obtain ⟨row, hrow, rfl⟩ := lowerStock_ok (fun row hrow => (binRow?_mem hrow).1) hok
  rw [reserved_addOnHand hreserved (binRow?_mem hrow).1, hrow, takesAvailable_some,
    InventoryRow.available]
  omega

theorem reserved_insertAdjustment {quantityChange : ℤ} {reasonDetail : String} {db : Db} :
    Reserved (insertAdjustment ctx itemId binId warehouseId quantityChange reasonDetail
      db) ↔ Reserved db :=
  reserved_congr (insertAdjustment_inventory ..)

theorem Reserved.addFound {db : Db} (hreserved : Reserved db) (hpos : 0 < quantity) :
    Reserved (Stock.addFound ctx itemId binId warehouseId quantity db) := by
  rw [Stock.addFound, reserved_congr (releaseBackorders_inventory ..)]
  exact hreserved.addInventory hpos

/-! ## One lemma a request -/

section Requests

variable {ctx : RequestContext} {db db' : Db}

theorem move_spec (hreserved : Reserved db) (hok : move ctx db request = .ok db') :
    (Reserved db' ↔ Spares db (.move request)) ∧
      KeepsUnits db db' (.move request) := by
  simp only [move, bind_eq_ok, require_eq_ok, pure_eq_ok] at hok
  obtain ⟨⟨fromBin, toBin⟩, -, -, -, -, -, moved, hmoved, rfl⟩ := hok
  obtain ⟨hiff, hunits⟩ := moveInventory_spec hreserved request.quantity_pos
    request.bins_must_differ hmoved
  have hinventory : (emitEvent ctx .inventoryTransferCompleted db.binTransfers.nextKey
      fromBin.warehouseId (recordMove ctx request fromBin.warehouseId .move request.reason
        moved)).inventory = moved.inventory :=
    emitEvent_inventory ..
  exact ⟨(reserved_congr hinventory).trans hiff, (unitsInBins_congr hinventory).trans hunits⟩

theorem confirmPutaway_spec (hreserved : Reserved db)
    (hok : confirmPutaway ctx db request = .ok db') :
    (Reserved db' ↔ Spares db (.confirmPutaway request)) ∧
      KeepsUnits db db' (.confirmPutaway request) := by
  simp only [confirmPutaway, bind_eq_ok, require_eq_ok, pure_eq_ok] at hok
  obtain ⟨⟨fromBin, toBin⟩, -, -, -, moved, hmoved, rfl⟩ := hok
  have hspec := moveInventory_spec hreserved request.quantity_pos request.bins_must_differ hmoved
  exact hspec

theorem createInterWarehouseTransfer_spec (hreserved : Reserved db)
    {request : InterWarehouseTransferRequest}
    (hok : createInterWarehouseTransfer ctx db request = .ok db') :
    (Reserved db' ↔ Spares db (.createInterWarehouseTransfer request)) ∧
      KeepsUnits db db' (.createInterWarehouseTransfer request) := by
  simp only [createInterWarehouseTransfer, bind_eq_ok, pure_eq_ok] at hok
  obtain ⟨-, -, -, -, -, -, lowered, hlowered, rfl⟩ := hok
  obtain ⟨row, hrow, rfl⟩ := lowerStock_ok (fun row hrow => (binRow?_mem hrow).1) hlowered
  obtain ⟨hmem, hitem, hbin⟩ := binRow?_mem hrow
  have hinventory := releaseBackorders_inventory ctx request.toWarehouseId request.itemId
    (addInventory ctx.now request.itemId request.toBinId request.toWarehouseId
      request.quantity none (addOnHand ctx.now (-request.quantity) row.inventoryId db))
  refine ⟨?_, ?_⟩
  · change Reserved (releaseSatisfiableBackorders ..) ↔ _
    rw [reserved_congr hinventory, reserved_shift hreserved hmem request.quantity_pos]
    simp [Spares, hrow]
  · exact (unitsInBins_congr hinventory).trans (unitsInBins_shift hmem hitem hbin)

theorem directAdjustment_spec (hreserved : Reserved db) {request : DirectAdjustmentRequest}
    (hok : directAdjustment ctx db request = .ok db') :
    Reserved db' ↔ Spares db (.directAdjustment request) := by
  simp only [directAdjustment, bind_eq_ok] at hok
  obtain ⟨-, -, -, -, hok⟩ := hok
  cases htype : request.adjustmentType with
  | add =>
      simp only [htype, pure_eq_ok] at hok
      subst hok
      rw [reserved_insertAdjustment]
      have hkept : Reserved (addFound ctx request.itemId request.binId
          request.warehouseId request.quantity db) :=
        hreserved.addFound request.quantity_pos
      simp [Spares, htype, hkept]
  | remove =>
      simp only [htype, bind_eq_ok, pure_eq_ok] at hok
      obtain ⟨lowered, hlowered, rfl⟩ := hok
      rw [reserved_insertAdjustment, lowerStock_reserved hreserved hlowered]
      simp [Spares, htype]

theorem importAdjustment_spec (hreserved : Reserved db) {row : ImportedAdjustment}
    (hok : importAdjustment ctx db row = .ok db') :
    Reserved db' ↔ Spares db (.importAdjustment row) := by
  unfold importAdjustment at hok
  by_cases hpos : 0 < row.qty
  · simp only [hpos, if_true, pure_eq_ok] at hok
    subst hok
    have hkept : Reserved (addInventory ctx.now row.itemId row.binId row.warehouseId
        row.qty none db) := hreserved.addInventory hpos
    have hnot : ¬ row.qty < 0 := by omega
    rw [reserved_insertAdjustment]
    simp [Spares, hnot, hkept]
  · simp only [hpos, if_false, bind_eq_ok, pure_eq_ok] at hok
    obtain ⟨lowered, hlowered, rfl⟩ := hok
    have hneg : row.qty < 0 := by
      have hne := row.qty_ne_zero
      omega
    rw [reserved_insertAdjustment, lowerStock_reserved hreserved hlowered]
    simp [Spares, hneg]

theorem applyInventoryUpdate_spec (hreserved : Reserved db) (update : InventoryUpdate) :
    Reserved (applyInventoryUpdate ctx db update) ↔
      Spares db (.applyInventoryUpdate update) := by
  unfold applyInventoryUpdate syncStored InventoryUpdate.delta
  cases hrow : binRow? db update.itemId update.binId with
  | none =>
      have hnonneg := update.targetQuantity_nonneg
      have hspares : Spares db (.applyInventoryUpdate update) := by
        simp [Spares, hrow]
      simp only [onHandIn, Option.elim_none, sub_zero, hspares, iff_true]
      split
      · exact hreserved
      · split
        · rename_i hpos
          exact reserved_insertAdjustment.mpr (hreserved.addFound hpos)
        · exact hreserved
  | some row =>
      have hmem := (binRow?_mem hrow).1
      have hheld := hreserved row hmem
      have hspares : Spares db (.applyInventoryUpdate update) ↔
          row.quantityAllocated ≤ update.targetQuantity := by
        simp [Spares, hrow]
      rw [hspares]
      have hunits : onHandIn (some row) = row.quantityOnHand := rfl
      by_cases hzero : update.targetQuantity - onHandIn (some row) = 0
      · rw [if_pos hzero]
        simp only [hreserved, true_iff]
        omega
      by_cases hpos : 0 < update.targetQuantity - onHandIn (some row)
      · have hkept : Reserved (addFound ctx update.itemId update.binId
            update.warehouseId (update.targetQuantity - onHandIn (some row)) db) :=
          hreserved.addFound hpos
        rw [if_neg hzero, if_pos hpos, reserved_insertAdjustment]
        simp only [hkept, true_iff]
        omega
      · rw [if_neg hzero, if_neg hpos, reserved_insertAdjustment,
          setInventoryQuantity_eq hmem, reserved_addOnHand hreserved hmem]
        omega

theorem applyAdjustment_spec (hreserved : Reserved db) (now : ℕ)
    (adjustment : InventoryAdjustment) :
    Reserved (applyAdjustment now adjustment db) ↔ CountCovers db adjustment := by
  unfold applyAdjustment CountCovers
  cases hrow : binRow? db adjustment.itemId adjustment.binId with
  | some row =>
      have hmem := (binRow?_mem hrow).1
      simp only [Option.some.injEq, forall_eq']
      rw [setInventoryQuantity_eq hmem, reserved_addOnHand hreserved hmem]
      omega
  | none =>
      simp only [reduceCtorEq, false_imp_iff, implies_true, iff_true]
      split
      · rename_i hpos
        rw [reserved_iff_with]
        apply (reservedWith_insert _ db _ _ rfl (by simpa using hpos.le)).mpr
        exact (reserved_iff_with db).mp hreserved
      · exact hreserved

theorem reviewDecision_spec (hreserved : Reserved db) {decision : AdjustmentDecision}
    (hok : reviewDecision ctx db decision = .ok db') :
    Reserved db' ↔ Spares db (.reviewDecision decision) := by
  unfold reviewDecision at hok
  cases hfound : (db.inventoryAdjustments.find? decision.adjustmentId).filter
      fun adjustment => adjustment.status = .adjPending with
  | none =>
      simp only [hfound, pure_eq_ok] at hok
      subst hok
      simp only [hreserved, true_iff]
      intro happrove adjustment hadjustment hpending
      simp [hadjustment, hpending] at hfound
  | some adjustment =>
      simp only [hfound] at hok
      obtain ⟨hadjustment, hpending⟩ := Option.filter_eq_some_iff.mp hfound
      have hpending' : adjustment.status = .adjPending := of_decide_eq_true hpending
      cases happrove : decision.approve with
      | false =>
          simp only [happrove, Bool.false_eq_true, if_false, pure_eq_ok] at hok
          subst hok
          have hkept : Reserved (setAdjustmentStatus adjustment.adjustmentId
            .adjRejected db) := hreserved
          simp [Spares, happrove, hkept]
      | true =>
          simp only [happrove, if_true, bind_eq_ok, require_eq_ok, pure_eq_ok] at hok
          obtain ⟨-, -, rfl⟩ := hok
          rw [reserved_congr (emitEvent_inventory ..)]
          have hcounted : ∀ approved : Db, (if adjustment.cycleCountId.isSome then
              emitEvent ctx .cycleCountAdjusted adjustment.adjustmentId
                adjustment.warehouseId approved
              else approved).inventory = approved.inventory := by
            intro approved
            split
            · exact emitEvent_inventory ..
            · rfl
          rw [reserved_congr (hcounted _)]
          change Reserved (applyAdjustment ctx.now adjustment db) ↔ _
          rw [applyAdjustment_spec hreserved]
          simp [Spares, happrove, hadjustment, hpending']

theorem perform_spec (hreserved : Reserved db) {request : StockRequest}
    (hok : perform ctx db request = .ok db') :
    (Reserved db' ↔ Spares db request) ∧ KeepsUnits db db' request := by
  cases request with
  | move request => exact move_spec hreserved hok
  | confirmPutaway request => exact confirmPutaway_spec hreserved hok
  | createInterWarehouseTransfer request =>
      exact createInterWarehouseTransfer_spec hreserved hok
  | directAdjustment request => exact ⟨directAdjustment_spec hreserved hok, trivial⟩
  | importAdjustment row => exact ⟨importAdjustment_spec hreserved hok, trivial⟩
  | applyInventoryUpdate update =>
      simp only [perform, pure_eq_ok] at hok
      subst hok
      exact ⟨applyInventoryUpdate_spec hreserved update, trivial⟩
  | reviewDecision decision => exact ⟨reviewDecision_spec hreserved hok, trivial⟩

end Requests

/-! ## Reviews of several adjustments -/

/-- Every decision of a review takes no reserved units from the state it is made in. -/
def SparesAll (ctx : RequestContext) : List AdjustmentDecision → Db → Prop
  | [], _ => True
  | decision :: rest, db =>
      Spares db (.reviewDecision decision) ∧
        ∀ reviewed, reviewDecision ctx db decision = .ok reviewed → SparesAll ctx rest reviewed

theorem reviewDecisions_reserved {db : Db} {releases : List Release}
    (hreserved : Reserved db) (hspares : SparesAll ctx decisions db)
    (hok : reviewDecisions ctx decisions db = .ok (db', releases)) : Reserved db' := by
  induction decisions generalizing db releases with
  | nil =>
      simp only [reviewDecisions, pure_eq_ok, Prod.mk.injEq] at hok
      exact hok.1 ▸ hreserved
  | cons decision rest ih =>
      simp only [reviewDecisions, bind_eq_ok, pure_eq_ok, Prod.mk.injEq] at hok
      obtain ⟨reviewed, hdecision, ⟨final, later⟩, hrest, rfl, -⟩ := hok
      have hnext := (reviewDecision_spec hreserved hdecision).mpr hspares.1
      exact ih hnext (hspares.2 reviewed hdecision) hrest

theorem reviewAdjustments_reserved {db : Db} (hreserved : Reserved db)
    (hspares : SparesAll ctx decisions db)
    (hok : reviewAdjustments ctx db decisions = .ok db') : Reserved db' := by
  simp only [reviewAdjustments, bind_eq_ok, pure_eq_ok] at hok
  obtain ⟨⟨reviewed, releases⟩, hreviewed, rfl⟩ := hok
  have hinventory : (run (fun db release =>
      releaseSatisfiableBackorders ctx release.warehouseId release.itemId db)
        reviewed (orderBy releaseBefore releases.dedup)).inventory = reviewed.inventory := by
    apply run_unchanged Db.inventory
    intro state release
    exact releaseBackorders_inventory ctx release.warehouseId release.itemId state
  rw [reserved_congr hinventory]
  exact reviewDecisions_reserved hreserved hspares hreviewed

/-- From a state in which every row has its reserved units, an accepted request leaves
every row with them, and the units it moves in its two bins, exactly when it takes no
reserved units; and so does a review whose decisions take none. -/
theorem reserved_kept_iff {ctx : RequestContext} {db : Db} (hreserved : Reserved db) :
    (∀ request db', perform ctx db request = .ok db' →
      (Reserved db' ∧ KeepsUnits db db' request ↔ Spares db request)) ∧
    ∀ decisions db', reviewAdjustments ctx db decisions = .ok db' →
      SparesAll ctx decisions db → Reserved db' := by
  constructor
  · intro request db' hok
    obtain ⟨hiff, hunits⟩ := perform_spec hreserved hok
    rw [and_iff_left hunits]
    exact hiff
  · intro decisions db' hok hspares
    exact reviewAdjustments_reserved hreserved hspares hok

/-! ## A reserved shelf -/

namespace ReservedShelf

/-- Five widgets in the first bin, four of them reserved. -/
def db : Db :=
  { SmallWarehouse.db with
    inventory := Table.empty.insert fun inventoryId =>
      { inventoryId := inventoryId
        itemId := 1
        binId := 1
        warehouseId := 1
        quantityOnHand := 5
        quantityAllocated := 4
        updatedAt := 0 } }

def moveOf (quantity : ℤ) (hpos : decide (0 < quantity) = true := by exact Eq.refl true)
    (hle : decide (quantity ≤ 100000) = true := by exact Eq.refl true) : MoveRequest where
  itemId := 1
  fromBinId := 1
  toBinId := 2
  quantity := quantity
  reason := none
  lotNumber := none
  quantity_pos := SmallWarehouse.positive hpos
  quantity_le := SmallWarehouse.inTask hle
  bins_must_differ := by decide

def after (quantity : ℤ) (hpos : decide (0 < quantity) = true := by exact Eq.refl true)
    (hle : decide (quantity ≤ 100000) = true := by exact Eq.refl true) : Db :=
  (perform (SmallWarehouse.pat 1) db (.move (moveOf quantity hpos hle))).toOption.getD db

theorem db_reserved : Reserved db := by
  intro row hrow
  rw [List.mem_singleton.mp hrow]
  decide

end ReservedShelf

theorem reserved_kept_iff_free :
    Reserved (ReservedShelf.after 1) ∧
      KeepsUnits ReservedShelf.db (ReservedShelf.after 1)
        (.move (ReservedShelf.moveOf 1)) := by
  have hkept := (reserved_kept_iff ReservedShelf.db_reserved).1
    (.move (ReservedShelf.moveOf 1)) (ReservedShelf.after 1)
    (rfl : perform (SmallWarehouse.pat 1) ReservedShelf.db _ = _)
  rw [hkept]
  change TakesAvailable (existingRow? ReservedShelf.db 1 1 none) 1
  decide

/-- A move of three widgets is accepted and leaves two in the bin for four reserved
ones. -/
theorem move_takes_reserved :
    Reserved ReservedShelf.db ∧
      perform (SmallWarehouse.pat 1) ReservedShelf.db
          (.move (ReservedShelf.moveOf 3)) = .ok (ReservedShelf.after 3) ∧
      (existingRow? (ReservedShelf.after 3) 1 1 none).map
          (fun row => (row.quantityOnHand, row.quantityAllocated)) = some (2, 4) ∧
      ¬ Reserved (ReservedShelf.after 3) := by
  refine ⟨ReservedShelf.db_reserved, rfl, by decide, ?_⟩
  intro hreserved
  have hrow := hreserved
    { inventoryId := 1
      itemId := 1
      binId := 1
      warehouseId := 1
      quantityOnHand := 2
      quantityAllocated := 4
      updatedAt := 1 } (by decide)
  exact absurd hrow (by decide)

end SentryWms.Stock

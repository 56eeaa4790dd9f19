import SentryWms.Receiving.Receipts

/-!
# Stock movements and corrections

Bin-to-bin moves, put-aways and transfers between warehouses, the adjustments an
administrator, an import or a feed makes, and the review of the adjustments a cycle
count proposes.  Each writes `quantity_on_hand` of the rows it finds; none of them
writes a reservation.
-/

namespace SentryWms.Stock

open Relational Inventory Receiving

/-! ## Statements -/

/-- `set_inventory_quantity`. -/
def setInventoryQuantity (now inventoryId : ℕ) (quantity : ℤ) (db : Db) : Db :=
  { db with
    inventory := db.inventory.updateKey inventoryId fun row =>
      { row with
        quantityOnHand := quantity
        updatedAt := now } }

/-- `WHERE item_id = :iid AND bin_id = :bid`, whatever the lot. -/
def binRow? (db : Db) (itemId binId : ℕ) : Option InventoryRow :=
  db.inventory.rows.find? fun row => row.itemId = itemId ∧ row.binId = binId

/-- The units on hand a row lookup reads; none without a row. -/
def onHandIn (row? : Option InventoryRow) : ℤ := row?.elim 0 InventoryRow.quantityOnHand

/-- A decrement behind a sufficient-stock check. -/
def lowerStock (now : ℕ) (row? : Option InventoryRow) (quantity : ℤ)
    (error : ServiceError) (db : Db) : Except ServiceError Db := do
  let row ← orThrow (row?.filter fun row => quantity ≤ row.quantityOnHand) error
  pure (setInventoryQuantity now row.inventoryId (row.quantityOnHand - quantity) db)

def insertBinTransfer (make : ℕ → BinTransfer)
    (hkey : ∀ value, (make value).transferId = value) (db : Db) : Db :=
  { db with binTransfers := db.binTransfers.insert make hkey }

/-- `INSERT INTO inventory_adjustments`, approved at once. -/
def insertAdjustment (ctx : RequestContext) (itemId binId warehouseId : ℕ)
    (quantityChange : ℤ) (reasonDetail : String) (db : Db) : Db :=
  emitEvent ctx .inventoryAdjustedCompleted db.inventoryAdjustments.nextKey warehouseId
    { db with
      inventoryAdjustments := db.inventoryAdjustments.insert fun adjustmentId =>
        { adjustmentId := adjustmentId
          itemId := itemId
          binId := binId
          warehouseId := warehouseId
          quantityChange := quantityChange
          reasonDetail := reasonDetail
          status := .adjApproved
          adjustedBy := ctx.username } }

/-! ## Moves -/

def insufficientInSource (row? : Option InventoryRow) : String :=
  s!"Insufficient inventory in source bin. Available: {onHandIn row?}"

/-- `move_inventory`, with the `ValueError` as its callers answer it. -/
def moveInventory (now itemId fromBinId toBinId warehouseId : ℕ) (quantity : ℤ)
    (lotNumber : Option String) (db : Db) : Except ServiceError Db := do
  let source? := existingRow? db itemId fromBinId lotNumber
  let lowered ← lowerStock now source? quantity (.httpError 400 (insufficientInSource source?)) db
  pure (addInventory now itemId toBinId warehouseId quantity lotNumber lowered)

/-- The body of a move and of a put-away; a put-away has no reason. -/
structure MoveRequest where
  itemId : ℕ
  fromBinId : ℕ
  toBinId : ℕ
  quantity : ℤ
  reason : Option String
  lotNumber : Option String
  quantity_pos : 0 < quantity
  quantity_le : quantity ≤ 100000
  bins_must_differ : fromBinId ≠ toBinId

/-- The rows of a move: the item and the two bins. -/
def moveBins (db : Db) (request : MoveRequest) : Except ServiceError (Bin × Bin) := do
  let _ ← orThrow (db.items.find? request.itemId) (.httpError 404 "Item not found")
  let fromBin ← orThrow (db.bins.find? request.fromBinId) (.httpError 404 "Source bin not found")
  let toBin ← orThrow (db.bins.find? request.toBinId) (.httpError 404 "Destination bin not found")
  pure (fromBin, toBin)

/-- `INSERT INTO bin_transfers` of a move or a put-away. -/
def recordMove (ctx : RequestContext) (request : MoveRequest) (warehouseId : ℕ)
    (transferType : TransferType) (reason : Option String) (db : Db) : Db :=
  insertBinTransfer
    (fun transferId =>
      { transferId := transferId
        itemId := request.itemId
        fromBinId := request.fromBinId
        toBinId := request.toBinId
        warehouseId := warehouseId
        quantity := request.quantity
        transferType := transferType
        lotNumber := request.lotNumber
        reason := reason
        transferredBy := ctx.username }) (fun _ => rfl) db

/-- `move`, the bin-to-bin transfer route. -/
def move (ctx : RequestContext) (db : Db) (request : MoveRequest) :
    Except ServiceError Db := do
  let (fromBin, toBin) ← moveBins db request
  require (toBin.warehouseId = fromBin.warehouseId)
    (.httpError 400
      "Cross-warehouse moves are not allowed here. Use the admin inter-warehouse transfer.")
  require (inScope ctx fromBin.warehouseId) (.httpError 403 "Access denied for this warehouse")
  let moved ← moveInventory ctx.now request.itemId request.fromBinId request.toBinId
    fromBin.warehouseId request.quantity request.lotNumber db
  pure (emitEvent ctx .inventoryTransferCompleted db.binTransfers.nextKey fromBin.warehouseId
    (recordMove ctx request fromBin.warehouseId .move request.reason moved))

/-- `confirm_putaway`.  The destination may be in another warehouse; a new row there
carries the warehouse of the source. -/
def confirmPutaway (ctx : RequestContext) (db : Db) (request : MoveRequest) :
    Except ServiceError Db := do
  let (fromBin, _) ← moveBins db request
  require (inScope ctx fromBin.warehouseId) (.httpError 403 "Access denied for this warehouse")
  let moved ← moveInventory ctx.now request.itemId request.fromBinId request.toBinId
    fromBin.warehouseId request.quantity request.lotNumber db
  pure (recordMove ctx request fromBin.warehouseId .putaway none moved)

structure InterWarehouseTransferRequest where
  itemId : ℕ
  fromBinId : ℕ
  fromWarehouseId : ℕ
  toBinId : ℕ
  toWarehouseId : ℕ
  quantity : ℤ
  reason : Option String
  quantity_pos : 0 < quantity
  quantity_le : quantity ≤ 100000

/-- `SELECT ... FROM bins WHERE bin_id = :bid AND warehouse_id = :wid`. -/
def binIn? (db : Db) (binId warehouseId : ℕ) : Option Bin :=
  (db.bins.find? binId).filter fun bin => bin.warehouseId = warehouseId

/-- `create_inter_warehouse_transfer`: the source row is of any lot, the destination
row has none. -/
def createInterWarehouseTransfer (ctx : RequestContext) (db : Db)
    (request : InterWarehouseTransferRequest) : Except ServiceError Db := do
  let _ ← orThrow (db.items.find? request.itemId) (.httpError 404 "Item not found")
  let _ ← orThrow (binIn? db request.fromBinId request.fromWarehouseId)
    (.httpError 404 "Source bin not found in the specified source warehouse")
  let _ ← orThrow (binIn? db request.toBinId request.toWarehouseId)
    (.httpError 404 "Destination bin not found in the specified destination warehouse")
  let source? := binRow? db request.itemId request.fromBinId
  let lowered ← lowerStock ctx.now source? request.quantity
    (.httpError 400 (insufficientInSource source?)) db
  let raised := addInventory ctx.now request.itemId request.toBinId
    request.toWarehouseId request.quantity none lowered
  pure (insertBinTransfer
    (fun transferId =>
      { transferId := transferId
        itemId := request.itemId
        fromBinId := request.fromBinId
        toBinId := request.toBinId
        warehouseId := request.fromWarehouseId
        quantity := request.quantity
        transferType := .interWarehouse
        reason := some (request.reason.getD "")
        transferredBy := ctx.username }) (fun _ => rfl)
    (releaseSatisfiableBackorders ctx request.toWarehouseId request.itemId raised))

/-! ## Adjustments -/

/-- Units found: they join the bin's row without a lot, and may release backorders. -/
def addFound (ctx : RequestContext) (itemId binId warehouseId : ℕ) (quantity : ℤ)
    (db : Db) : Db :=
  releaseSatisfiableBackorders ctx warehouseId itemId
    (addInventory ctx.now itemId binId warehouseId quantity none db)

inductive AdjustmentType
  | add
  | remove
  deriving DecidableEq, Repr

structure DirectAdjustmentRequest where
  itemId : ℕ
  binId : ℕ
  warehouseId : ℕ
  adjustmentType : AdjustmentType
  quantity : ℤ
  reason : String
  quantity_pos : 0 < quantity
  quantity_le : quantity ≤ 1000000

/-- `direct_adjustment`. -/
def directAdjustment (ctx : RequestContext) (db : Db)
    (request : DirectAdjustmentRequest) : Except ServiceError Db := do
  let _ ← orThrow (db.items.find? request.itemId) (.httpError 404 "Item not found")
  let _ ← orThrow (binIn? db request.binId request.warehouseId)
    (.httpError 404 "Bin not found in the specified warehouse")
  match request.adjustmentType with
  | .add =>
      pure (insertAdjustment ctx request.itemId request.binId request.warehouseId
        request.quantity request.reason
        (addFound ctx request.itemId request.binId request.warehouseId request.quantity db))
  | .remove => do
      let row? := binRow? db request.itemId request.binId
      let lowered ← lowerStock ctx.now row? request.quantity
        (.httpError 400 s!"Insufficient inventory. Available: {onHandIn row?}") db
      pure (insertAdjustment ctx request.itemId request.binId request.warehouseId
        (-request.quantity) request.reason lowered)

/-- A row of the adjustment import, with the rows its codes name. -/
structure ImportedAdjustment where
  itemId : ℕ
  binId : ℕ
  warehouseId : ℕ
  sku : String
  binCode : String
  qty : ℤ
  memo : Option String
  qty_ne_zero : qty ≠ 0

/-- `_import_inventory_adjustment`, past its lookups.  The backorders are released
after the whole file. -/
def importAdjustment (ctx : RequestContext) (db : Db) (row : ImportedAdjustment) :
    Except ServiceError Db := do
  if 0 < row.qty then
    pure (insertAdjustment ctx row.itemId row.binId row.warehouseId row.qty (row.memo.getD "")
      (addInventory ctx.now row.itemId row.binId row.warehouseId row.qty none db))
  else do
    let stored? := binRow? db row.itemId row.binId
    let lowered ← lowerStock ctx.now stored? (-row.qty)
      (.valueError s!"Insufficient inventory at bin '{row.binCode}' for sku '{row.sku}': available {onHandIn stored?}, requested {-row.qty}")
      db
    pure (insertAdjustment ctx row.itemId row.binId row.warehouseId row.qty
      (row.memo.getD "") lowered)

/-- A stock figure pushed by an upstream system, with the rows it names. -/
structure InventoryUpdate where
  itemId : ℕ
  binId : ℕ
  warehouseId : ℕ
  targetQuantity : ℤ
  externalId : String
  targetQuantity_nonneg : 0 ≤ targetQuantity

/-- The delta the update reports for the row it has read. -/
def InventoryUpdate.delta (update : InventoryUpdate) (stored? : Option InventoryRow) : ℤ :=
  update.targetQuantity - onHandIn stored?

/-- The inbound inventory update, past its lookup: the difference to the target is added
to the row without a lot, or taken off the row it has read. -/
def syncStored (ctx : RequestContext) (update : InventoryUpdate)
    (stored? : Option InventoryRow) (db : Db) : Db :=
  let change := update.delta stored?
  let detail := s!"Pipe B inbound adjustment from upstream external_id={update.externalId}"
  if change = 0 then db
  else if 0 < change then
    insertAdjustment ctx update.itemId update.binId update.warehouseId change detail
      (addFound ctx update.itemId update.binId update.warehouseId change db)
  else
    match stored? with
    | some row =>
        insertAdjustment ctx update.itemId update.binId update.warehouseId change detail
          (setInventoryQuantity ctx.now row.inventoryId (row.quantityOnHand + change) db)
    | none => db

/-- The inbound inventory update, with the first row of the bin. -/
def applyInventoryUpdate (ctx : RequestContext) (db : Db) (update : InventoryUpdate) : Db :=
  syncStored ctx update (binRow? db update.itemId update.binId) db

/-! ## Reviewing adjustments -/

structure AdjustmentDecision where
  adjustmentId : ℕ
  approve : Bool

/-- The inventory change of an approval: the bin's first row, floored at zero, or a
new row for units that appeared. -/
def applyAdjustment (now : ℕ) (adjustment : InventoryAdjustment) (db : Db) : Db :=
  match binRow? db adjustment.itemId adjustment.binId with
  | some row =>
      setInventoryQuantity now row.inventoryId
        (max 0 (row.quantityOnHand + adjustment.quantityChange)) db
  | none =>
      if 0 < adjustment.quantityChange then
        { db with
          inventory := db.inventory.insert fun inventoryId =>
            { inventoryId := inventoryId
              itemId := adjustment.itemId
              binId := adjustment.binId
              warehouseId := adjustment.warehouseId
              quantityOnHand := adjustment.quantityChange
              updatedAt := now } }
      else db

def setAdjustmentStatus (adjustmentId : ℕ) (status : AdjustmentStatus) (db : Db) : Db :=
  { db with
    inventoryAdjustments := db.inventoryAdjustments.updateKey adjustmentId
      fun adjustment => { adjustment with status := status } }

/-- One decision of `review_adjustments`; an adjustment that is gone or already
reviewed is passed over. -/
def reviewDecision (ctx : RequestContext) (db : Db) (decision : AdjustmentDecision) :
    Except ServiceError Db :=
  match (db.inventoryAdjustments.find? decision.adjustmentId).filter
      fun adjustment => adjustment.status = .adjPending with
  | none => pure db
  | some adjustment =>
      if decision.approve then do
        require (¬ (adjustment.cycleCountId.isSome ∧ adjustment.adjustedBy = ctx.username ∧
            db.requireCountApprovalSeparation = some "true"))
          (.httpError 403 "Cannot approve your own cycle count")
        let approved := setAdjustmentStatus adjustment.adjustmentId .adjApproved
          (applyAdjustment ctx.now adjustment db)
        let counted :=
          if adjustment.cycleCountId.isSome then
            emitEvent ctx .cycleCountAdjusted adjustment.adjustmentId
              adjustment.warehouseId approved
          else approved
        pure (emitEvent ctx .inventoryAdjustedCompleted adjustment.adjustmentId
          adjustment.warehouseId counted)
      else pure (setAdjustmentStatus adjustment.adjustmentId .adjRejected db)

/-- The warehouse, the item and the source of a release; counts come last. -/
structure Release where
  warehouseId : ℕ
  itemId : ℕ
  counted : Bool
  deriving DecidableEq, Repr

/-- Tuple order of `sorted(_released_pairs)`. -/
def releaseBefore (left right : Release) : Prop :=
  left.warehouseId < right.warehouseId ∨
    (left.warehouseId = right.warehouseId ∧
      (left.itemId < right.itemId ∨ (left.itemId = right.itemId ∧ (left.counted → right.counted))))

instance : DecidableRel releaseBefore := fun _ _ => inferInstanceAs (Decidable (_ ∨ _))

/-- The release an approval of found units asks for. -/
def releaseOf? (db : Db) (decision : AdjustmentDecision) : Option Release :=
  ((db.inventoryAdjustments.find? decision.adjustmentId).filter fun adjustment =>
    adjustment.status = .adjPending ∧ decision.approve ∧
      0 < adjustment.quantityChange).map fun adjustment =>
    { warehouseId := adjustment.warehouseId
      itemId := adjustment.itemId
      counted := adjustment.cycleCountId.isSome }

def reviewDecisions (ctx : RequestContext) :
    List AdjustmentDecision → Db → Except ServiceError (Db × List Release)
  | [], db => pure (db, [])
  | decision :: rest, db => do
      let reviewed ← reviewDecision ctx db decision
      let (final, releases) ← reviewDecisions ctx rest reviewed
      pure (final, (releaseOf? db decision).toList ++ releases)

/-- `review_adjustments`: the backorder matcher runs once for each release. -/
def reviewAdjustments (ctx : RequestContext) (db : Db)
    (decisions : List AdjustmentDecision) : Except ServiceError Db := do
  let (reviewed, releases) ← reviewDecisions ctx decisions db
  pure (run
    (fun db release => releaseSatisfiableBackorders ctx release.warehouseId release.itemId db)
    reviewed (orderBy releaseBefore releases.dedup))

end SentryWms.Stock

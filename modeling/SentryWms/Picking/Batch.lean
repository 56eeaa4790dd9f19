import SentryWms.Picking.Coverage
import SentryWms.Picking.Revert

/-!
# Batch creation

`create_pick_batch`: scrub the operator's earlier sessions, resolve and check the
scanned orders, release their standing reservations, plan coverage, and only then
write the batch, its totes, its reservations and its tasks.
-/

namespace SentryWms.Picking

open Relational Inventory

/-! ## Resolving the scanned orders -/

/-- `so_number = :ident OR so_barcode = :ident`, in the warehouse. -/
def findOrder (db : Db) (warehouseId : ℕ) (ident : String) : Option SalesOrder :=
  db.salesOrders.rows.find? fun order =>
    (order.soNumber = ident ∨ order.soBarcode = some ident) ∧ order.warehouseId = warehouseId

/-- The open or in-progress batch an order sits in. -/
def activeBatchOf (db : Db) (soId : ℕ) : Option PickBatch :=
  db.pickBatchOrders.rows.findSome? fun member =>
    if member.soId = soId then
      (db.pickBatches.find? member.batchId).filter fun batch => batch.status.active
    else none

/-- Refuse an order that sits in an active batch. -/
def requireInactive (db : Db) (soId : ℕ) (refusal : PickBatch → ServiceError) :
    Except ServiceError Unit :=
  match activeBatchOf db soId with
  | some active => .error (refusal active)
  | none => pure ()

/-- A scanned order must be open and in no active batch. -/
def checkBatchable (db : Db) (ident : String) (order : SalesOrder) :
    Except ServiceError Unit := do
  require (order.status = .soOpen)
    (.valueError s!"Sales order '{ident}' status is {order.status.text}, must be OPEN")
  requireInactive db order.soId fun active =>
    .valueError s!"Sales order '{ident}' is already in active pick batch {active.batchId}"

/-- Step 1 of `create_pick_batch`: excluded orders are dropped after they were
found, before any other check. -/
def resolveOrders (db : Db) (warehouseId : ℕ) (excludeSoIds : List ℕ) :
    List String → Except ServiceError (List SalesOrder)
  | [] => pure []
  | ident :: rest => do
      let order ← orThrow (findOrder db warehouseId ident)
        (.valueError s!"Sales order '{ident}' not found")
      if order.soId ∈ excludeSoIds then
        resolveOrders db warehouseId excludeSoIds rest
      else do
        checkBatchable db ident order
        let others ← resolveOrders db warehouseId excludeSoIds rest
        pure (order :: others)

/-! ## Writing the batch -/

/-- `INSERT INTO pick_batches`, status `OPEN`. -/
def openBatch (ctx : RequestContext) (warehouseId : ℕ) (db : Db) : Db :=
  { db with
    pickBatches := db.pickBatches.insert fun batchId =>
      { batchId := batchId
        warehouseId := warehouseId
        status := .batchOpen
        assignedTo := ctx.username
        totalOrders := 0
        totalItems := 0 } }

/-- `enumerate(sales_orders, 1)` with the tote of each order. -/
def withTotes (orders : List SalesOrder) : List (SalesOrder × String) :=
  (orders.zipIdx 1).map fun (order, idx) => (order, s!"TOTE-{idx}")

/-- `INSERT INTO pick_batch_orders`, under `UNIQUE(batch_id, so_id)`. -/
def addBatchOrder (batchId soId : ℕ) (toteNumber : Option String) (db : Db) :
    Except ServiceError Db := do
  require (∀ member ∈ db.pickBatchOrders.rows, ¬(member.batchId = batchId ∧ member.soId = soId))
    (.integrityError "pick_batch_orders_batch_id_so_id_key")
  pure
    { db with
      pickBatchOrders := db.pickBatchOrders.insert fun batchOrderId =>
        { batchOrderId := batchOrderId
          batchId := batchId
          soId := soId
          toteNumber := toteNumber } }

def addBatchOrders (batchId : ℕ) :
    List (SalesOrder × String) → Db → Except ServiceError Db
  | [], db => pure db
  | (order, tote) :: rest, db => do
      let listed ← addBatchOrder batchId order.soId (some tote) db
      addBatchOrders batchId rest listed

/-! ## The allocation loop -/

/-- Reserve one take, on its row and on the line, and write its task. -/
def allocateTake (batchId : ℕ) (tote : String) (line : SalesOrderLine) (db : Db)
    (take : InventoryRow × ℤ) : Db :=
  let reserved := updateLine (some line.soLineId) (SalesOrderLine.addAllocated take.2)
    (addAllocated none take.2 take.1.inventoryId db)
  { reserved with
    pickTasks := reserved.pickTasks.insert fun pickTaskId =>
      { pickTaskId := pickTaskId
        batchId := batchId
        target := .salesOrder line.soId (some line.soLineId)
        itemId := line.itemId
        binId := take.1.binId
        quantityToPick := take.2
        pickSequence := pickSequenceOf db take.1
        toteNumber := some tote } }

/-- Allocate a line: its candidate rows are queried again for every line, so
that it sees the reservations of the lines before it. -/
def allocateLine (batchId warehouseId : ℕ) (tote : String) (db : Db)
    (line : SalesOrderLine) : Db :=
  run (allocateTake batchId tote line) db
    (draws InventoryRow.available (line.quantityOrdered - line.quantityAllocated)
      (pickableRows db line.itemId warehouseId))

def allocateOrder (batchId warehouseId : ℕ) (db : Db)
    (order : SalesOrder × String) : Db :=
  run (allocateLine batchId warehouseId order.2) db (openLines db order.1.soId)

/-- Step 5 of `create_pick_batch`. -/
def allocateOrders (batchId warehouseId : ℕ) (db : Db)
    (orders : List (SalesOrder × String)) : Db :=
  run (allocateOrder batchId warehouseId) db orders

/-- Units of a batch's tasks.  Every unit the loops count in `total_items` is
written as a task's quantity. -/
def batchUnits (db : Db) (batchId : ℕ) : ℤ := ((tasksOf db batchId).map PickTask.quantityToPick).sum

/-- `UPDATE pick_batches SET total_orders = ..., total_items = ...`. -/
def setBatchTotals (batchId totalOrders : ℕ) (db : Db) : Db :=
  { db with
    pickBatches := db.pickBatches.updateKey batchId fun batch =>
      { batch with
        totalOrders := totalOrders
        totalItems := batchUnits db batchId } }

/-! ## Responses -/

def binCodeOf (db : Db) (binId : ℕ) : String := (db.bins.find? binId).elim "" Bin.binCode

/-- `_get_tasks_for_batch`. -/
def getTasksForBatch (db : Db) (batchId : ℕ) : List PickTask :=
  orderBy
    (fun left right =>
      left.pickSequence < right.pickSequence ∨
        (left.pickSequence = right.pickSequence ∧
          binCodeOf db left.binId ≤ binCodeOf db right.binId))
    (tasksOf db batchId)

structure CreatedBatch where
  batchId : ℕ
  status : BatchStatus
  totalOrders : ℕ
  totalItems : ℤ
  orders : List (String × String)
  tasks : List PickTask
  deriving DecidableEq, Repr

structure CreateBatchRequest where
  soIdentifiers : List String
  warehouseId : ℕ
  excludeSoIds : List ℕ
  soIdentifiers_ne_nil : soIdentifiers ≠ []
  warehouseId_pos : 0 < warehouseId

/-- `create_pick_batch`. -/
def createPickBatch (ctx : RequestContext) (db : Db)
    (request : CreateBatchRequest) : Except ServiceError (Db × CreatedBatch) := do
  let warehouseId := request.warehouseId
  let scrubbed := cancelPriorUserBatches ctx db warehouseId
  let orders ← resolveOrders scrubbed warehouseId request.excludeSoIds request.soIdentifiers
  require (orders ≠ []) (.valueError "No sales orders to pick (all excluded or empty input)")
  let normalized := normalizeOrders ctx.now warehouseId scrubbed orders
  let unpickable := (planCoverage normalized (coverageMap normalized orders) warehouseId).1
  require (unpickable = []) (.insufficientCoverage unpickable)
  let batchId := normalized.pickBatches.nextKey
  let listed ← addBatchOrders batchId (withTotes orders) (openBatch ctx warehouseId normalized)
  let allocated := allocateOrders batchId warehouseId listed (withTotes orders)
  pure (setBatchTotals batchId orders.length allocated,
    { batchId := batchId
      status := .batchOpen
      totalOrders := orders.length
      totalItems := batchUnits allocated batchId
      orders := (withTotes orders).map fun (order, tote) => (order.soNumber, tote)
      tasks := getTasksForBatch allocated batchId })

end SentryWms.Picking

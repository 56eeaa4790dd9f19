import SentryWms.Picking.Revert
import SentryWms.Picking.Tasks

/-!
# Batch completion

`complete_batch`: the two guards over tasks and lines, the status flip of every
order of the batch with its outbox event, and the submission of the transfer
orders the batch picked.
-/

namespace SentryWms.Picking

open Relational Inventory

/-- The orders listed in a batch. -/
def membersOf (db : Db) (batchId : ℕ) : List ℕ :=
  (db.pickBatchOrders.select fun member => member.batchId = batchId).map PickBatchOrder.soId

/-- The batch-wide run of the under-pick query, by order and line. -/
def silentlyShortIn (db : Db) (batchId : ℕ) : List SalesOrderLine :=
  orderBy
    (fun left right =>
      left.soId < right.soId ∨ (left.soId = right.soId ∧ left.soLineId ≤ right.soLineId))
    ((membersOf db batchId).flatMap (silentlyShort db))

/-- One offender of the refusal message. -/
def offenderText (db : Db) (line : SalesOrderLine) : String :=
  s!"so_id={line.soId} sku={skuOf db line.itemId} ordered={line.quantityOrdered} picked={line.quantityPicked}"

/-- The refusal names the first five offenders. -/
def silentlyShortMessage (db : Db) (lines : List SalesOrderLine) : String :=
  let offenders := (lines.take 5).map (offenderText db)
  let surplus := lines.length - 5
  let more := if lines.length ≤ 5 then "" else s!" (+{surplus} more)"
  "Cannot complete batch - lines under-picked with no short-close marker: " ++
    "; ".intercalate offenders ++ more

/-- Flip one order to `PICKED` and emit its `pick.confirmed`. -/
def pickOrder (ctx : RequestContext) (db : Db) (order : SalesOrder) : Db :=
  emitEvent ctx .pickConfirmed order.soId order.warehouseId (setOrderStatus order.soId .soPicked db)

/-- `JOIN sales_orders` over the members of the batch. -/
def ordersOf (db : Db) (batchId : ℕ) : List SalesOrder :=
  (membersOf db batchId).filterMap db.salesOrders.find?

/-- `SELECT DISTINCT to_id FROM pick_tasks`. -/
def transferOrdersOf (db : Db) (batchId : ℕ) : List ℕ :=
  ((tasksOf db batchId).filterMap PickTask.toId?).dedup

structure BatchSummary where
  batchId : ℕ
  totalOrders : ℕ
  totalItemsPicked : ℤ
  totalShorts : ℕ
  orders : List String
  deriving DecidableEq, Repr

/-- What `complete_batch` writes once its guards have passed. -/
def finishBatch (ctx : RequestContext) (db : Db) (batchId : ℕ) : Db :=
  let completed := setBatchStatus batchId .batchCompleted db
  let picked := run (pickOrder ctx) completed (ordersOf completed batchId)
  run (fun db toId => TransferOrders.submitPicks db toId ctx.username) picked
    (transferOrdersOf picked batchId)

/-- `complete_batch`.  It does not look at the status of the batch or of its
orders. -/
def completeBatch (ctx : RequestContext) (db : Db) (batchId : ℕ) :
    Except ServiceError (Db × BatchSummary) := do
  let batch ← orThrow (db.pickBatches.find? batchId) (.valueError "Batch not found")
  let pending := pendingCount db batchId
  require (pending = 0) (.valueError s!"Cannot complete batch - {pending} tasks still pending")
  let short := silentlyShortIn db batchId
  require (short = []) (.valueError (silentlyShortMessage db short))
  let finished := finishBatch ctx db batchId
  pure (finished,
    { batchId := batch.batchId
      totalOrders := (ordersOf db batchId).length
      totalItemsPicked :=
        ((tasksOf finished batchId).map PickTask.quantityPicked).sum
      totalShorts :=
        ((tasksOf finished batchId).filter fun task => task.status = .taskShort).length
      orders := (ordersOf db batchId).map SalesOrder.soNumber })

end SentryWms.Picking

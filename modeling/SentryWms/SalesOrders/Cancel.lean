import SentryWms.Picking.Revert

/-!
# Order cancellation

`cancel_sales_order` with its two unwinds and the cascade to backorders.  The
unwind of an open order finds its reservations through pending tasks only; the
unwind of a picked order puts the picked units into the default receiving bin.
-/

namespace SentryWms.SalesOrders

open Relational Inventory

/-! ## Unwinding an open order -/

/-- The lines of an order that reserve anything. -/
def allocatedLines (db : Db) (soId : ℕ) : List SalesOrderLine :=
  db.salesOrderLines.select fun line => line.soId = soId ∧ 0 < line.quantityAllocated

/-- One pending task of a line, released without a floor on every row of its
bin. -/
def unwindTask (itemId : ℕ) (db : Db) (task : PickTask) : Db :=
  subtractAllocated itemId task.binId task.quantityToPick db

def unwindLine (db : Db) (line : SalesOrderLine) : Db :=
  updateLine (some line.soLineId) (SalesOrderLine.setAllocated 0)
    (run (unwindTask line.itemId) db (pendingTasksOf db line.soLineId))

/-- The loop of `_unwind_allocated`. -/
def unwindLines (db : Db) (soId : ℕ) : Db := run unwindLine db (allocatedLines db soId)

/-- `_unwind_allocated`: whatever their status, all tasks of the order go. -/
def unwindAllocated (db : Db) (soId : ℕ) : Except ServiceError Db := do
  let untasked ← deleteTasks (fun task => task.soId? = some soId) (unwindLines db soId)
  pure (deleteBatchOrders soId untasked)

/-! ## Unwinding a picked order -/

def unwindPickedLine (ctx : RequestContext) (receivingBinId warehouseId : ℕ)
    (db : Db) (line : SalesOrderLine) : Db :=
  updateLine (some line.soLineId) SalesOrderLine.unwindPicked
    (addInventory ctx.now line.itemId receivingBinId warehouseId line.quantityPicked none db)

/-- The lines of an order with picked units. -/
def pickedLines (db : Db) (soId : ℕ) : List SalesOrderLine :=
  db.salesOrderLines.select fun line => line.soId = soId ∧ 0 < line.quantityPicked

/-- `_unwind_picked_or_packed`. -/
def unwindPickedOrPacked (ctx : RequestContext) (db : Db)
    (soId warehouseId : ℕ) : Except ServiceError Db := do
  let receivingBinId ← orThrow db.defaultReceivingBin
    (.runtimeError
      "default_receiving_bin app_setting is missing; cannot unwind PICKED/PACKED cancellation")
  pure (deleteBatchOrders soId
    (run (unwindPickedLine ctx receivingBinId warehouseId) db (pickedLines db soId)))

/-! ## The service -/

/-- The unwind an order's status calls for. -/
def unwindOrder (ctx : RequestContext) (db : Db) (order : SalesOrder) : Except ServiceError Db :=
  match order.status with
  | .soOpen => unwindAllocated db order.soId
  | .soPicked => unwindPickedOrPacked ctx db order.soId order.warehouseId
  | .soPacked => unwindPickedOrPacked ctx db order.soId order.warehouseId
  | _ => pure db

/-- The children the cascade walks: backorders that are not terminal. -/
def openBackorders (db : Db) (soId : ℕ) : List SalesOrder :=
  db.salesOrders.select fun child =>
    child.parentSoId = some soId ∧ child.orderType = .backorder ∧
      child.status ≠ .soCancelled ∧ child.status ≠ .soShipped

/-- `UPDATE sales_orders SET cancellation_reason = :reason`. -/
def stampReason (soId : ℕ) (reason : String) (db : Db) : Db :=
  { db with
    salesOrders := db.salesOrders.updateKey soId fun order =>
      { order with cancellationReason := some reason } }

/-- The header flip of a cancellation, and the event of a cancelled
backorder. -/
def closeCancelled (ctx : RequestContext) (order : SalesOrder) (db : Db) : Db :=
  let closed := setOrderStatus order.soId .soCancelled db
  if order.orderType = .backorder then
    emitEvent ctx .backorderCancelled order.soId order.warehouseId closed
  else closed

/-- `cancel_sales_order` on one order, without the cascade: what it refuses,
and the row it cancelled. -/
def cancelOne (ctx : RequestContext) (db : Db) (soId : ℕ) :
    Except ServiceError (Db × SalesOrder) := do
  let order ← orThrow (db.salesOrders.find? soId)
    (.cancelNotAllowed "sales order not found" "UNKNOWN")
  require (order.status ≠ .soShipped)
    (.cancelNotAllowed
      "cannot cancel a SHIPPED order; void the ship via /api/v1/dockd/orders/<so>/void-ship first"
      order.status.text)
  if order.status = .soCancelled then pure (db, order)
  else do
    let unwound ← unwindOrder ctx db order
    pure (closeCancelled ctx order unwound, order)

/-- The cascade over the open backorders of an order.  A backorder never has
backorders of its own to cancel, so the recursion ends here. -/
def cancelBackorders (ctx : RequestContext) :
    List SalesOrder → Db → Except ServiceError Db
  | [], db => pure db
  | child :: rest, db => do
      let (cancelled, _) ← cancelOne ctx (stampReason child.soId "parent_cancelled" db) child.soId
      cancelBackorders ctx rest cancelled

structure CancelledOrder where
  preStatus : SalesOrderStatus
  soNumber : String
  deriving DecidableEq, Repr

/-- `cancel_sales_order`.  Cancelling a cancelled order is a no-op. -/
def cancelSalesOrder (ctx : RequestContext) (db : Db) (soId : ℕ) :
    Except ServiceError (Db × CancelledOrder) := do
  let (cancelled, order) ← cancelOne ctx db soId
  let result : CancelledOrder :=
    { preStatus := order.status, soNumber := order.soNumber }
  if order.status = .soCancelled ∨ order.orderType = .backorder then
    pure (cancelled, result)
  else do
    let cascaded ← cancelBackorders ctx (openBackorders cancelled soId) cancelled
    pure (cascaded, result)

end SentryWms.SalesOrders

import SentryWms.Picking.Revert

/-!
# Order revert

`revert_sales_order_status`: demote an order along the outbound ladder, putting
the picked tasks the operator names back on their shelves.
-/

namespace SentryWms.SalesOrders

open Relational

/-- `_STATUS_ORDER`. -/
def statusOrder : SalesOrderStatus → Option ℕ
  | .soOpen => some 0
  | .soPicked => some 1
  | .soPacked => some 2
  | .soShipped => some 3
  | _ => none

theorem undoneTask_key (task : PickTask) (line : SalesOrderLine) :
    (line.undoTask task.quantityPicked task.quantityToPick).soLineId = line.soLineId :=
  rfl

/-- One released task: its units return to the bin and its counters leave the
line, whose identifier may have been cleared. -/
def releasePickedTask (ctx : RequestContext) (warehouseId : ℕ) (db : Db)
    (task : PickTask) : Db :=
  setTaskStatus task.pickTaskId .taskReleased
    (updateLine task.soLineId? (SalesOrderLine.undoTask task.quantityPicked task.quantityToPick)
      (Picking.restorePicked ctx warehouseId task db) (undoneTask_key task))

/-- `WHERE pick_task_id = ANY(:ids) AND so_id = :sid`. -/
def namedTasks (db : Db) (soId : ℕ) (releasePickTaskIds : List ℕ) : List PickTask :=
  db.pickTasks.select fun task => task.pickTaskId ∈ releasePickTaskIds ∧ task.soId? = some soId

/-- `SELECT COALESCE(SUM(quantity_picked), 0)`. -/
def pickedUnits (db : Db) (soId : ℕ) : ℤ :=
  ((linesOf db soId).map SalesOrderLine.quantityPicked).sum

/-- `quantity_packed = 0` on the order's packed lines. -/
def unpackLines (soId : ℕ) (db : Db) : Db :=
  { db with
    salesOrderLines := db.salesOrderLines.update
      (fun line => line.soId = soId ∧ 0 < line.quantityPacked)
      fun line => { line with quantityPacked := 0 } }

/-- The shipment columns an unship clears. -/
def clearShipment (soId : ℕ) (db : Db) : Db :=
  { db with
    salesOrders := db.salesOrders.updateKey soId fun order =>
      { order with trackingNumber := none, carrier := none, shippedAt := none } }

structure RevertStatusRequest where
  soId : ℕ
  newStatus : SalesOrderStatus
  releasePickTaskIds : List ℕ

structure RevertedOrder where
  fromStatus : SalesOrderStatus
  toStatus : SalesOrderStatus
  releasedPickTasks : List ℕ
  unpacked : Bool
  unshipped : Bool
  deriving DecidableEq, Repr

/-- The header and line updates that follow the releases. -/
def demote (soId : ℕ) (newStatus : SalesOrderStatus) (needUnpack needUnship : Bool)
    (db : Db) : Db :=
  let unpacked := if needUnpack then unpackLines soId db else db
  let unshipped := if needUnship then clearShipment soId unpacked else unpacked
  setOrderStatus soId newStatus unshipped

/-- The refusals of a revert that name values. -/
def unknownTarget (newStatus : SalesOrderStatus) : ServiceError :=
  .revertNotAllowed s!"unknown target status: '{newStatus.text}'" "invalid_status"

/-- The set of the requested identifiers has no order of its own; they are listed
ascending. -/
def tasksMissing (pickTaskIds : List ℕ) (tasks : List PickTask) : ServiceError :=
  let missing := (Inventory.orderBy (· ≤ ·) pickTaskIds.eraseDups).filter fun k =>
    k ∉ tasks.map PickTask.pickTaskId
  .revertNotAllowed s!"pick_task(s) not found on this SO: {idList missing}" "pick_task_missing"

def tasksNotPicked (tasks : List PickTask) : ServiceError :=
  let wrong := (tasks.filter fun task => task.status ≠ .taskPicked).map PickTask.pickTaskId
  .revertNotAllowed s!"pick_task(s) not in PICKED state: {idList wrong}" "pick_task_wrong_state"

/-- `revert_sales_order_status`. -/
def revertSalesOrderStatus (ctx : RequestContext) (db : Db)
    (request : RevertStatusRequest) : Except ServiceError (Db × RevertedOrder) := do
  let newIdx ← orThrow (statusOrder request.newStatus)
    (unknownTarget request.newStatus)
  let order ← orThrow (db.salesOrders.find? request.soId)
    (.revertNotAllowed "sales order not found" "not_found")
  require (orderTypeAllowsFulfillmentOps order.orderType)
    (.revertNotAllowed "cannot release picked quantity on a return SO" "not_eligible")
  require (order.status ≠ .soCancelled)
    (.revertNotAllowed "cannot revert a cancelled order; reopen via the cancel-undo workflow"
      "cancelled")
  let curIdx ← orThrow (statusOrder order.status)
    (.revertNotAllowed "target status must not be higher than current status" "not_backward")
  require (newIdx ≤ curIdx)
    (.revertNotAllowed "target status must not be higher than current status" "not_backward")
  let tasks := namedTasks db request.soId request.releasePickTaskIds
  require (∀ k ∈ request.releasePickTaskIds, k ∈ tasks.map PickTask.pickTaskId)
    (tasksMissing request.releasePickTaskIds tasks)
  require (∀ task ∈ tasks, task.status = .taskPicked)
    (tasksNotPicked tasks)
  let released := run (releasePickedTask ctx order.warehouseId) db tasks
  require (newIdx < 1 → pickedUnits released request.soId ≤ 0)
    (.revertNotAllowed
      "cannot demote below PICKED while quantity_picked remains; release the remaining pick_tasks or pick a higher target status"
      "picked_qty_remaining")
  let needUnpack : Bool := 2 ≤ curIdx ∧ newIdx < 2
  let needUnship : Bool := order.status = .soShipped ∧ request.newStatus ≠ .soShipped
  pure (demote request.soId request.newStatus needUnpack needUnship released,
    { fromStatus := order.status
      toStatus := request.newStatus
      releasedPickTasks :=
        (tasks.filter fun task => 0 < task.quantityPicked).map PickTask.pickTaskId
      unpacked := needUnpack
      unshipped := needUnship })

end SentryWms.SalesOrders

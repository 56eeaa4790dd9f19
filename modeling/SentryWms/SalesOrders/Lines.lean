import SentryWms.SalesOrders.Create

/-!
# Line maintenance

The administrator's edits of order lines: adding, resizing and removing a line,
with `_release_so_line_allocation` giving a line's reservation back, and the
stepper that adjusts a line's reservation by hand.
-/

namespace SentryWms.SalesOrders

open Relational Inventory

/-! ## Releasing a line -/

/-- One pending task of the line: its quantity goes back to the bin's rows of
the line's item. -/
def releaseTask (itemId : ℕ) (db : Db) (task : PickTask) : Db :=
  releaseAllocated none itemId task.binId task.quantityToPick db

/-- `_release_so_line_allocation`: the reservation is found through the line's
pending tasks, whatever the line's own counter says. -/
def releaseSoLineAllocation (db : Db) (soLineId : ℕ) : Except ServiceError (Db × ℤ) :=
  match db.salesOrderLines.find? soLineId with
  | none => pure (db, 0)
  | some line =>
      if line.quantityAllocated = 0 then pure (db, 0)
      else do
        let tasks := pendingTasksOf db soLineId
        let remaining ← deleteTasks
          (fun task => task.soLineId? = some soLineId ∧ task.status = .taskPending)
          (run (releaseTask line.itemId) db tasks)
        pure (updateLine (some soLineId) (SalesOrderLine.setAllocated 0) remaining
            key_kept, (tasks.map PickTask.quantityToPick).sum)

/-! ## Editing lines -/

/-- `_so_line_edit_gate`. -/
def soLineEditGate (ctx : RequestContext) (order : SalesOrder) :
    Except ServiceError Unit := do
  require (order.status ≠ .soShipped ∧ order.status ≠ .soCancelled)
    (.httpError 400 s!"Cannot edit lines on a {order.status.text} order")
  require (ctx.isAdmin ∨ order.status = .soOpen ∨ ctx.hasSoFullEdit)
    (.httpError 403 "Line edits past OPEN require ADMIN or so-full-edit override")

/-- The line of an order, by both identifiers. -/
def lineOn (db : Db) (soId soLineId : ℕ) : Option SalesOrderLine :=
  (db.salesOrderLines.find? soLineId).filter fun line => line.soId = soId

/-- `COALESCE(MAX(line_number), 0) + 1`. -/
def nextLineNumber (db : Db) (soId : ℕ) : ℤ :=
  match (linesOf db soId).map SalesOrderLine.lineNumber with
  | [] => 1
  | first :: rest => rest.foldl max first + 1

structure AddLineRequest where
  soId : ℕ
  itemId : ℕ
  quantityOrdered : ℤ
  quantityOrdered_pos : 0 < quantityOrdered
  quantityOrdered_le : quantityOrdered ≤ 1000000

/-- `add_sales_order_line`: one line per item; nothing is reserved. -/
def addSalesOrderLine (ctx : RequestContext) (db : Db) (request : AddLineRequest) :
    Except ServiceError (Db × ℕ) := do
  let order ← orThrow (db.salesOrders.find? request.soId) (.httpError 404 "Sales order not found")
  soLineEditGate ctx order
  let item ← orThrow (db.items.find? request.itemId)
    (.httpError 400 s!"Item {request.itemId} not found")
  require (∀ line ∈ linesOf db request.soId, line.itemId ≠ request.itemId)
    (.httpError 400 s!"Item {item.sku} is already on this SO")
  pure (insertLine request.soId request.itemId request.quantityOrdered
      (nextLineNumber db request.soId) db, db.salesOrderLines.nextKey)

structure UpdateLineRequest where
  soId : ℕ
  soLineId : ℕ
  quantityOrdered : ℤ
  quantityOrdered_pos : 0 < quantityOrdered
  quantityOrdered_le : quantityOrdered ≤ 1000000

/-- `update_sales_order_line`: a line shrunk below its reservation gives the
whole reservation back.  The result carries the released units. -/
def updateSalesOrderLine (ctx : RequestContext) (db : Db)
    (request : UpdateLineRequest) : Except ServiceError (Db × ℤ) := do
  let order ← orThrow (db.salesOrders.find? request.soId) (.httpError 404 "Sales order not found")
  soLineEditGate ctx order
  let line ← orThrow (lineOn db request.soId request.soLineId) (.httpError 404 "Line not found")
  let newQty := request.quantityOrdered
  let pickedOrPacked := max line.quantityPicked line.quantityPacked
  require (pickedOrPacked ≤ newQty)
    (.httpError 400
      s!"quantity_ordered ({newQty}) cannot be less than already-picked/packed quantity ({pickedOrPacked})")
  require (line.quantityShipped ≤ newQty)
    (.httpError 400
      s!"quantity_ordered ({newQty}) cannot be less than already-shipped quantity ({line.quantityShipped})")
  let (released, units) ←
    if newQty < line.quantityAllocated ∧ 0 < line.quantityAllocated then
      releaseSoLineAllocation db request.soLineId
    else pure (db, 0)
  pure (updateLine (some request.soLineId)
      (fun row => { row with quantityOrdered := newQty }) released, units)

/-- `delete_sales_order_line`: picked, packed and shipped units block it. -/
def deleteSalesOrderLine (ctx : RequestContext) (db : Db) (soId soLineId : ℕ) :
    Except ServiceError (Db × ℤ) := do
  let order ← orThrow (db.salesOrders.find? soId) (.httpError 404 "Sales order not found")
  soLineEditGate ctx order
  let line ← orThrow (lineOn db soId soLineId) (.httpError 404 "Line not found")
  require (¬(0 < line.quantityPicked ∨ 0 < line.quantityPacked ∨ 0 < line.quantityShipped))
    (.httpError 400
      "Line has picked/packed/shipped units; unwind via the ship-void or short-pick path before removing the line")
  let (released, units) ←
    if 0 < line.quantityAllocated then releaseSoLineAllocation db soLineId
    else pure (db, 0)
  let deleted ← deleteLine soLineId released
  pure (deleted, units)

/-! ## Adjusting a reservation -/

structure AdjustAllocationRequest where
  soId : ℕ
  soLineId : ℕ
  delta : ℤ
  delta_ge : -1000000 ≤ delta
  delta_le : delta ≤ 1000000

/-- Clamped to what is picked below and what is ordered above. -/
def adjustTarget (line : SalesOrderLine) (delta : ℤ) : ℤ :=
  max line.quantityPicked (min line.quantityOrdered (line.quantityAllocated + delta))

/-- The takes of a raise, from available stock. -/
def raiseTakes (db : Db) (line : SalesOrderLine) (warehouseId : ℕ) (target : ℤ) :
    List (InventoryRow × ℤ) :=
  reserveTakes db line.itemId warehouseId (target - line.quantityAllocated)

/-- The takes of a lowering, from reserved rows in lock order. -/
def lowerTakes (db : Db) (line : SalesOrderLine) (warehouseId : ℕ) (target : ℤ) :
    List (InventoryRow × ℤ) :=
  draws InventoryRow.quantityAllocated (line.quantityAllocated - target)
    (allocatedRows db line.itemId warehouseId)

/-- The inventory and line updates of `adjust_sales_order_line_allocation`: a
raise settles for what the warehouse could give, a lowering always reaches its
target. -/
def adjustAllocation (ctx : RequestContext) (db : Db) (line : SalesOrderLine)
    (warehouseId : ℕ) (target : ℤ) : Db :=
  if line.quantityAllocated < target then
    let takes := raiseTakes db line warehouseId target
    updateLine (some line.soLineId)
      (SalesOrderLine.setAllocated (line.quantityAllocated + takenUnits takes))
      (applyTakes (some ctx.now) 1 db takes)
  else if target < line.quantityAllocated then
    updateLine (some line.soLineId) (SalesOrderLine.setAllocated target)
      (applyTakes (some ctx.now) (-1) db (lowerTakes db line warehouseId target))
  else db

/-- `adjust_sales_order_line_allocation`.  Neither the order's status nor what
the reserved rows can give is checked. -/
def adjustSalesOrderLineAllocation (ctx : RequestContext) (db : Db)
    (request : AdjustAllocationRequest) : Except ServiceError (Db × ℤ) := do
  let line ← orThrow (lineOn db request.soId request.soLineId)
    (.httpError 404 "Sales order line not found")
  let order ← orThrow (db.salesOrders.find? request.soId)
    (.httpError 404 "Sales order line not found")
  let adjusted := adjustAllocation ctx db line order.warehouseId (adjustTarget line request.delta)
  pure (adjusted,
    ((adjusted.salesOrderLines.find? request.soLineId).elim
      line.quantityAllocated SalesOrderLine.quantityAllocated))

end SentryWms.SalesOrders

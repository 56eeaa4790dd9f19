import SentryWms.SalesOrders.CancelRelease

/-!
# What a cancellation returns

The unwind is chosen by the order's status.  A picked or packed order puts its
picked units back on hand; an open one returns nothing, although its tasks may
have been picked while their batch is still active.  What was picked for an order is
counted from the settled tasks and their wave shares, which the unwind of a picked
order never reads: it goes by the counters of the order's lines.
-/

namespace SentryWms.SalesOrders

open Relational Inventory Picking

/-- The units a settled task took off the shelf for an order.  A wave task took them for
its shares, first in first out. -/
def takenFor (db : Db) (soId : ℕ) (task : PickTask) : ℤ :=
  match breakdownOf db task.pickTaskId with
  | [] => if task.soId? = some soId then task.quantityPicked else 0
  | share :: rest =>
      ((gives task.quantityPicked (share :: rest)).map fun give =>
        if give.1.soId = soId then give.2 else 0).sum

/-- The units of an item that the picked and the shorted tasks took for an order. -/
def takenByTasks (db : Db) (soId itemId : ℕ) : ℤ :=
  db.pickTasks.sum fun task =>
    if task.itemId = itemId ∧ (task.status = .taskPicked ∨ task.status = .taskShort) then
      takenFor db soId task
    else 0

def shippedUnits (db : Db) (soId itemId : ℕ) : ℤ :=
  ((linesOf db soId).map fun line =>
    if line.itemId = itemId then line.quantityShipped else 0).sum

/-- The units of an item physically picked for an order and not shipped.  A cancelled
order has none: its tasks stay behind as the trail of what it returned. -/
def pickedUnshipped (db : Db) (order : SalesOrder) (itemId : ℕ) : ℤ :=
  if order.status = .soCancelled then 0
  else takenByTasks db order.soId itemId - shippedUnits db order.soId itemId

/-- The picked and allocated quantities of a line. -/
def counters (line : SalesOrderLine) : ℕ × ℤ × ℤ :=
  (line.soLineId, line.quantityPicked, line.quantityAllocated)

/-- The units on hand of every item grow by exactly what was picked for the order
and not shipped, and the counters of every other order's lines are unchanged. -/
structure ReturnsPicked (order : SalesOrder) (before after : Db) : Prop where
  items : ∀ itemId, onHandOf after itemId - onHandOf before itemId =
    pickedUnshipped before order itemId
  others : ∀ soId, soId ≠ order.soId →
    (linesOf after soId).map counters = (linesOf before soId).map counters

/-- An unwind changes a line's counters when it changes its reservation. -/
theorem counters_unwoundLine_iff (status : SalesOrderStatus) (line : SalesOrderLine) :
    counters (unwoundLine status line) = counters line ↔
      (unwoundLine status line).outstanding = line.outstanding := by
  have hopen : counters (unwoundLine .soOpen line) = counters line ↔
      (unwoundLine .soOpen line).outstanding = line.outstanding := by
    by_cases hpos : 0 < line.quantityAllocated
    · simp only [unwoundLine, if_pos hpos, SalesOrderLine.setAllocated, counters,
        SalesOrderLine.outstanding, Prod.mk.injEq]
      omega
    · simp only [unwoundLine, if_neg hpos]
  have hpicked : counters (unwoundLine .soPicked line) = counters line ↔
      (unwoundLine .soPicked line).outstanding = line.outstanding := by
    by_cases hpos : 0 < line.quantityPicked
    · simp only [unwoundLine, if_pos hpos, SalesOrderLine.unwindPicked, counters,
        SalesOrderLine.outstanding, Prod.mk.injEq]
      omega
    · simp only [unwoundLine, if_neg hpos]
  cases status with
  | soOpen => exact hopen
  | soPicked | soPacked => exact hpicked
  | _ => simp only [unwoundLine]

/-- An order for three whose batch is completed. -/
def pickedOrder : Db :=
  SmallWarehouse.after
    [SmallWarehouse.receive 1 5 none, SmallWarehouse.order "S1" [SmallWarehouse.line 3],
      .createBatch (SmallWarehouse.batch ["S1"] []),
      .confirmPick (SmallWarehouse.confirm 1 3),
      .completeBatch 1]

/-- The same order before its batch is completed: open, its task picked. -/
def pickedOpen : Db :=
  SmallWarehouse.after
    [SmallWarehouse.receive 1 5 none, SmallWarehouse.order "S1" [SmallWarehouse.line 3],
      .createBatch (SmallWarehouse.batch ["S1"] []),
      .confirmPick (SmallWarehouse.confirm 1 3)]

/-- Two orders of 3 and 2 in one wave over 10 units, whose task is confirmed with 4:
both lines are credited in full. -/
def pickedWave : Db :=
  SmallWarehouse.after
    [SmallWarehouse.receive 1 10 none, SmallWarehouse.order "S1" [SmallWarehouse.line 3],
      SmallWarehouse.order "S2" [SmallWarehouse.line 2],
      .createWave (SmallWarehouse.wave [1, 2] []), .confirmPick (SmallWarehouse.confirm 1 4),
      .completeBatch 1]

/-- The units of the item on hand before and after the cancellation of an order, and
those picked for it and not shipped. -/
def cancelledStock (db : Db) (soId : ℕ) : Option (ℤ × ℤ × ℤ) :=
  (db.salesOrders.find? soId).map fun order =>
    (onHandOf db 1, onHandOf (committed db (cancelSalesOrder (SmallWarehouse.pat 7) db soId)) 1,
      pickedUnshipped db order 1)

end SentryWms.SalesOrders

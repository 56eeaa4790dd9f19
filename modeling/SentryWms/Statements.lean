import SentryWms.Inventory

/-!
# Order, task and outbox statements

The `UPDATE`, `DELETE` and `INSERT` statements on orders, lines, tasks and the
event outbox that several services share, and the under-pick query that
completing, packing and shipping repeat.
-/

namespace SentryWms

open Relational

/-! ## Lines -/

namespace SalesOrderLine

/-- `quantity_allocated = quantity_allocated + :qty`. -/
def addAllocated (qty : ℤ) (line : SalesOrderLine) : SalesOrderLine :=
  { line with quantityAllocated := line.quantityAllocated + qty }

/-- `quantity_allocated = :qty`. -/
def setAllocated (qty : ℤ) (line : SalesOrderLine) : SalesOrderLine :=
  { line with quantityAllocated := qty }

/-- `quantity_allocated = quantity_picked`. -/
def allocatedToPicked (line : SalesOrderLine) : SalesOrderLine :=
  { line with quantityAllocated := line.quantityPicked }

/-- `quantity_picked = quantity_picked + :qty`. -/
def addPicked (qty : ℤ) (line : SalesOrderLine) : SalesOrderLine :=
  { line with quantityPicked := line.quantityPicked + qty }

/-- The two floored decrements that undo a task on its line. -/
def undoTask (picked allocated : ℤ) (line : SalesOrderLine) : SalesOrderLine :=
  { line with
    quantityPicked := max 0 (line.quantityPicked - picked)
    quantityAllocated := max 0 (line.quantityAllocated - allocated) }

/-- The counters of `record_admin_pick`: both columns of the `SET` read the
row as it was. -/
def adminPick (qty : ℤ) (line : SalesOrderLine) : SalesOrderLine :=
  { line with
    quantityPicked := line.quantityPicked + qty
    quantityAllocated := max line.quantityAllocated (line.quantityPicked + qty) }

/-- The line of a picked order whose units went back to stock. -/
def unwindPicked (line : SalesOrderLine) : SalesOrderLine :=
  { line with
    quantityPicked := 0
    quantityPacked := 0
    status := .pending }

/-- The units a line reserves and has not picked yet. -/
def outstanding (line : SalesOrderLine) : ℤ := line.quantityAllocated - line.quantityPicked

end SalesOrderLine

/-- `UPDATE sales_order_lines ... WHERE so_line_id = :id`; a `NULL` identifier
matches no row. -/
def updateLine (soLineId : Option ℕ) (set : SalesOrderLine → SalesOrderLine)
    (db : Db) (hset : ∀ line, @SameKey (set line).soLineId line.soLineId := by
      first | with_reducible exact Relational.key_kept | as_aux_lemma => intro _; rfl) : Db :=
  match soLineId with
  | some k => { db with salesOrderLines := db.salesOrderLines.updateKey k set hset }
  | none => db

/-- Updating one line moves a total over the lines by what it changes there. -/
theorem sum_updateLine (k : ℕ) (set : SalesOrderLine → SalesOrderLine) (db : Db)
    (hset : ∀ line, (set line).soLineId = line.soLineId)
    (value : SalesOrderLine → ℤ) :
    (updateLine (some k) set db hset).salesOrderLines.sum value =
      db.salesOrderLines.sum value +
        (db.salesOrderLines.find? k).elim 0 fun line =>
          value (set line) - value line := by
  rw [updateLine, Table.sum_updateKey]

@[simp]
theorem updateLine_inventory (k : Option ℕ) (set : SalesOrderLine → SalesOrderLine)
    (db : Db) (hset : ∀ line, (set line).soLineId = line.soLineId) :
    (updateLine k set db hset).inventory = db.inventory := by
  cases k <;> rfl

@[simp]
theorem updateLine_pickTasks (k : Option ℕ) (set : SalesOrderLine → SalesOrderLine)
    (db : Db) (hset : ∀ line, (set line).soLineId = line.soLineId) :
    (updateLine k set db hset).pickTasks = db.pickTasks := by
  cases k <;> rfl

@[simp]
theorem updateLine_salesOrders (k : Option ℕ)
    (set : SalesOrderLine → SalesOrderLine) (db : Db)
    (hset : ∀ line, (set line).soLineId = line.soLineId) :
    (updateLine k set db hset).salesOrders = db.salesOrders := by
  cases k <;> rfl

/-- The lines of an order, in storage order. -/
def linesOf (db : Db) (soId : ℕ) : List SalesOrderLine :=
  db.salesOrderLines.select fun line => line.soId = soId

theorem mem_linesOf {db : Db} {soId : ℕ} {line : SalesOrderLine} :
    line ∈ linesOf db soId ↔
      line ∈ db.salesOrderLines.rows ∧ line.soId = soId := by
  simp [linesOf, Table.select, List.mem_filter]

/-- The lines an order still needs stock for. -/
def openLines (db : Db) (soId : ℕ) : List SalesOrderLine :=
  db.salesOrderLines.select fun line =>
    line.soId = soId ∧ line.quantityAllocated < line.quantityOrdered

/-- Steps that each rewrite one line, the same way, rewrite the lines they
visit. -/
theorem run_lines_rows {step : Db → SalesOrderLine → Db}
    (set : SalesOrderLine → SalesOrderLine)
    (hstep : ∀ db line, (step db line).salesOrderLines.rows =
      db.salesOrderLines.rows.map fun row =>
        if row.soLineId = line.soLineId then set row else row)
    (hset : ∀ row, (set row).soLineId = row.soLineId)
    (hidem : ∀ row, set (set row) = set row) (db : Db)
    (lines : List SalesOrderLine) :
    (run step db lines).salesOrderLines.rows =
      db.salesOrderLines.rows.map fun row =>
        if row.soLineId ∈ lines.map SalesOrderLine.soLineId then set row
        else row := by
  induction lines generalizing db with
  | nil => simp [run]
  | cons line rest ih =>
      refine (ih (step db line)).trans ?_
      rw [hstep, List.map_map]
      refine List.map_congr_left fun row _ => ?_
      by_cases hhere : row.soLineId = line.soLineId
      · simp [hhere, hset, hidem]
      · simp [hhere]

theorem updateLine_rows (k : ℕ) (set : SalesOrderLine → SalesOrderLine) (db : Db)
    (hset : ∀ line, (set line).soLineId = line.soLineId) :
    (updateLine (some k) set db hset).salesOrderLines.rows =
      db.salesOrderLines.rows.map fun row =>
        if row.soLineId = k then set row else row := by
  simp [updateLine, Table.updateKey, Table.update]

/-! ## Orders -/

/-- `UPDATE sales_orders SET status = :status WHERE so_id = :id`. -/
def setOrderStatus (soId : ℕ) (status : SalesOrderStatus) (db : Db) : Db :=
  { db with
    salesOrders := db.salesOrders.updateKey soId fun order =>
      { order with status := status } }

/-! ## Tasks -/

/-- `UPDATE pick_tasks SET status = :status WHERE pick_task_id = :id`. -/
def setTaskStatus (pickTaskId : ℕ) (status : TaskStatus) (db : Db) : Db :=
  { db with
    pickTasks := db.pickTasks.updateKey pickTaskId fun task =>
      { task with status := status } }

/-- The outcome of a pick, written to its task. -/
def recordPick (pickTaskId : ℕ) (status : TaskStatus) (qty : ℤ) (db : Db) : Db :=
  { db with
    pickTasks := db.pickTasks.updateKey pickTaskId fun task =>
      { task with status := status, quantityPicked := qty } }

/-- The tasks of a line that are still to be walked. -/
def pendingTasksOf (db : Db) (soLineId : ℕ) : List PickTask :=
  db.pickTasks.select fun task => task.soLineId? = some soLineId ∧ task.status = .taskPending

/-- `DELETE FROM pick_tasks WHERE ...`.  `wave_pick_breakdown` references its
task without a cascade, so deleting a referenced task is refused. -/
def deleteTasks (test : PickTask → Bool) (db : Db) : Except ServiceError Db := do
  require (∀ share ∈ db.wavePickBreakdown.rows, ∀ task ∈ db.pickTasks.rows,
      task.pickTaskId = share.pickTaskId → test task = false)
    (.integrityError "wave_pick_breakdown_pick_task_id_fkey")
  pure { db with pickTasks := db.pickTasks.delete test }

/-- `DELETE FROM pick_batch_orders WHERE so_id = :id`. -/
def deleteBatchOrders (soId : ℕ) (db : Db) : Db :=
  { db with
    pickBatchOrders := db.pickBatchOrders.delete fun member => member.soId = soId }

/-- The foreign keys of `pick_tasks` and `wave_pick_breakdown` on lines are
`ON DELETE SET NULL`. -/
def clearTaskLine (soLineId : ℕ) (task : PickTask) : PickTask :=
  match task.target with
  | .salesOrder soId (some k) =>
      if k = soLineId then { task with target := .salesOrder soId none } else task
  | .salesOrder _ none => task
  | .transferOrder _ _ => task

theorem clearTaskLine_pickTaskId (soLineId : ℕ) (task : PickTask) :
    (clearTaskLine soLineId task).pickTaskId = task.pickTaskId := by
  unfold clearTaskLine
  split
  · split <;> rfl
  · rfl
  · rfl

/-- `DELETE FROM sales_order_lines WHERE so_line_id = :id`.  A fulfillment line or
a return receipt keeps its order line from being deleted; tasks and wave shares
lose their pointer to it. -/
def deleteLine (soLineId : ℕ) (db : Db) : Except ServiceError Db := do
  require (∀ shipped ∈ db.itemFulfillmentLines.rows, shipped.soLineId ≠ soLineId)
    (.integrityError "item_fulfillment_lines_so_line_id_fkey")
  require (∀ receipt ∈ db.itemReceipts.rows, receipt.soLineId ≠ some soLineId)
    (.integrityError "item_receipts_so_line_id_fkey")
  pure
    { db with
      salesOrderLines := db.salesOrderLines.delete fun line => line.soLineId = soLineId
      pickTasks := db.pickTasks.update (fun _ => true) (clearTaskLine soLineId)
        (clearTaskLine_pickTaskId soLineId)
      wavePickBreakdown := db.wavePickBreakdown.update
        (fun share => share.soLineId = some soLineId)
        fun share => { share with soLineId := none } }

/-! ## Outbox -/

/-- `emit_event`: `ON CONFLICT (aggregate_type, aggregate_id, event_type,
source_txn_id) DO NOTHING`. -/
def emitEvent (ctx : RequestContext) (eventType : EventType)
    (aggregateId warehouseId : ℕ) (db : Db) : Db :=
  if db.integrationEvents.rows.any fun event =>
      event.eventType = eventType ∧ event.aggregateId = aggregateId ∧
        event.sourceTxnId = ctx.sourceTxnId then db
  else
    { db with
      integrationEvents := db.integrationEvents.insert fun eventId =>
        { eventId := eventId
          eventType := eventType
          aggregateId := aggregateId
          warehouseId := warehouseId
          sourceTxnId := ctx.sourceTxnId } }

/-! ## The under-pick query -/

/-- An operator-confirmed shortfall of the line: a `SHORT` task on it, or a
wave share of it with a short quantity. -/
def hasShortMarker (db : Db) (soLineId : ℕ) : Bool :=
  (db.pickTasks.rows.any fun task =>
    task.soLineId? = some soLineId ∧ task.status = .taskShort) ||
  db.wavePickBreakdown.rows.any fun share =>
    share.soLineId = some soLineId ∧ 0 < share.shortQuantity

/-- The lines of an order that are under-picked without a marker, by
identifier.  The item join only supplies a SKU. -/
def silentlyShort (db : Db) (soId : ℕ) : List SalesOrderLine :=
  Inventory.orderBy (fun left right => left.soLineId ≤ right.soLineId)
    (db.salesOrderLines.select fun line =>
      line.soId = soId ∧ line.quantityPicked < line.quantityOrdered ∧
        ¬ hasShortMarker db line.soLineId)

def skuOf (db : Db) (itemId : ℕ) : String := (db.items.find? itemId).elim "" Item.sku

end SentryWms

import SentryWms.Statements

/-!
# Batch revert

`full_revert_batch` and the two callers that cancel an operator's own earlier
batches before a new one is created.
-/

namespace SentryWms.Picking

open Relational Inventory

/-- `add_inventory` of a task's picked units at its bin. -/
def restorePicked (ctx : RequestContext) (warehouseId : ℕ) (task : PickTask)
    (db : Db) : Db :=
  if 0 < task.quantityPicked then
    addInventory ctx.now task.itemId task.binId warehouseId task.quantityPicked none db
  else db

/-- The reservation of a task nobody walked, given back to its bin. -/
def releasePending (ctx : RequestContext) (task : PickTask) (db : Db) : Db :=
  if 0 < task.quantityToPick then
    releaseAllocated (some ctx.now) task.itemId task.binId task.quantityToPick db
  else db

/-- The task's counters, taken back from the line it points to. -/
def undoTaskLine (task : PickTask) (db : Db) : Db :=
  if 0 < task.quantityToPick ∨ 0 < task.quantityPicked then
    updateLine task.soLineId? (SalesOrderLine.undoTask task.quantityPicked task.quantityToPick) db
  else db

/-- One turn of the loop of `full_revert_batch`.  Transfer-order tasks and
tasks already settled are left alone. -/
def undoTask (ctx : RequestContext) (warehouseId : ℕ) (db : Db)
    (task : PickTask) : Db :=
  if task.soId? = none then db
  else
    match task.status with
    | .taskPending =>
        setTaskStatus task.pickTaskId .taskSkipped (undoTaskLine task (releasePending ctx task db))
    | .taskPicked =>
        setTaskStatus task.pickTaskId .taskReleased
          (undoTaskLine task (restorePicked ctx warehouseId task db))
    | .taskShort =>
        setTaskStatus task.pickTaskId .taskSkipped
          (undoTaskLine task (restorePicked ctx warehouseId task db))
    | .taskSkipped => db
    | .taskReleased => db

/-- `SELECT ... FROM pick_tasks WHERE batch_id = :bid`. -/
def tasksOf (db : Db) (batchId : ℕ) : List PickTask :=
  db.pickTasks.select fun task => task.batchId = batchId

/-- `UPDATE pick_batches SET status = :status WHERE batch_id = :bid`. -/
def setBatchStatus (batchId : ℕ) (status : BatchStatus) (db : Db) : Db :=
  { db with
    pickBatches := db.pickBatches.updateKey batchId fun batch =>
      { batch with status := status } }

/-- The effect of `full_revert_batch` on a stored batch; a batch that is
already completed or cancelled is left alone. -/
def revertBatch (ctx : RequestContext) (db : Db) (batch : PickBatch) : Db :=
  if batch.status.active then
    setBatchStatus batch.batchId .batchCancelled
      (run (undoTask ctx batch.warehouseId) db (tasksOf db batch.batchId))
  else db

/-- The tasks `full_revert_batch` settles. -/
def settledBy (task : PickTask) : Bool :=
  task.soId? ≠ none ∧ task.status ≠ .taskSkipped ∧ task.status ≠ .taskReleased

structure RevertedBatch where
  batchId : ℕ
  releasedTasks : ℕ
  noop : Bool
  deriving DecidableEq, Repr

/-- `full_revert_batch`. -/
def fullRevertBatch (ctx : RequestContext) (db : Db) (batchId : ℕ) :
    Except ServiceError (Db × RevertedBatch) := do
  let batch ← orThrow (db.pickBatches.find? batchId) (.valueError s!"Batch {batchId} not found")
  pure (revertBatch ctx db batch,
    { batchId := batchId
      releasedTasks :=
        if batch.status.active then
          ((tasksOf db batchId).filter settledBy).length
        else 0
      noop := !batch.status.active })

/-- The batches the operator has not finished in the warehouse. -/
def priorUserBatches (db : Db) (username : String) (warehouseId : ℕ) : List PickBatch :=
  orderBy (fun left right => left.batchId ≤ right.batchId)
    (db.pickBatches.select fun batch =>
      batch.assignedTo = username ∧ batch.warehouseId = warehouseId ∧ batch.status.active)

/-- `cancel_prior_user_batches`: a new session cancels the operator's open ones
in the warehouse. -/
def cancelPriorUserBatches (ctx : RequestContext) (db : Db)
    (warehouseId : ℕ) : Db :=
  run (revertBatch ctx) db (priorUserBatches db ctx.username warehouseId)

/-- The progress check of `cancel_stale_self_batch`. -/
def progressed (db : Db) (batchId : ℕ) : Bool :=
  (tasksOf db batchId).any fun task => task.status ≠ .taskPending ∨ 0 < task.quantityPicked

/-- `cancel_stale_self_batch`: revert the operator's own untouched batch, or
report that it is not one. -/
def cancelStaleSelfBatch (ctx : RequestContext) (db : Db) (batchId : ℕ) : Option Db :=
  match db.pickBatches.find? batchId with
  | none => none
  | some batch =>
      if batch.assignedTo = ctx.username ∧ batch.status = .batchOpen ∧
          ¬ progressed db batchId then
        some (revertBatch ctx db batch)
      else none

end SentryWms.Picking

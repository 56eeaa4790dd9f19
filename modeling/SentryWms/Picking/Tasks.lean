import SentryWms.TransferOrders

/-!
# Confirming and shorting a task

`confirm_pick` and `short_pick`.  Each settles a pending task, takes the units
out of every row of the task's bin, and credits the lines behind the task:
through the wave breakdown when the task has one, and otherwise the line the task
points to.
-/

namespace SentryWms.Picking

open Relational Inventory

/-- The request bodies bound the quantities: `gt=0, le=100000` and
`ge=0, le=100000`. -/
structure ConfirmPickRequest where
  pickTaskId : ℕ
  scannedBarcode : String
  quantityPicked : ℤ
  quantityPicked_pos : 0 < quantityPicked
  quantityPicked_le : quantityPicked ≤ 100000

structure ShortPickRequest where
  pickTaskId : ℕ
  quantityAvailable : ℤ
  quantityAvailable_nonneg : 0 ≤ quantityAvailable
  quantityAvailable_le : quantityAvailable ≤ 100000

/-- `_barcode_matches`. -/
def barcodeMatches (scanned : String) (item : Item) : Bool :=
  item.upc = some scanned ∨ scanned ∈ item.barcodeAliases

/-- `SELECT ... FROM wave_pick_breakdown WHERE pick_task_id = :tid ORDER BY
so_id`. -/
def breakdownOf (db : Db) (pickTaskId : ℕ) : List WavePickBreakdown :=
  orderBy (fun left right => left.soId ≤ right.soId)
    (db.wavePickBreakdown.select fun share => share.pickTaskId = pickTaskId)

/-! ## Crediting the lines -/

/-- A confirmed share is credited in full: `quantity_picked = quantity`. -/
def creditShare (db : Db) (share : WavePickBreakdown) : Db :=
  updateLine share.soLineId (SalesOrderLine.addPicked share.quantity)
    { db with
      wavePickBreakdown := db.wavePickBreakdown.updateKey share.id fun row =>
        { row with quantityPicked := row.quantity } }

/-- The lines of a confirmed sales-order task. -/
def creditConfirmed (task : PickTask) (quantityPicked : ℤ) (db : Db) : Db :=
  match breakdownOf db task.pickTaskId with
  | [] => updateLine task.soLineId? (SalesOrderLine.addPicked quantityPicked) db
  | share :: rest => run creditShare db (share :: rest)

/-- First-in first-out shares of a shorted task: each contributor gets what is
left, up to its own share. -/
def gives : ℤ → List WavePickBreakdown → List (WavePickBreakdown × ℤ)
  | _, [] => []
  | remainingToGive, share :: rest =>
      let give := min remainingToGive share.quantity
      (share, give) :: gives (remainingToGive - give) rest

def creditGive (db : Db) (give : WavePickBreakdown × ℤ) : Db :=
  let noted :=
    { db with
      wavePickBreakdown := db.wavePickBreakdown.updateKey give.1.id fun row =>
        { row with
          quantityPicked := give.2
          shortQuantity := give.1.quantity - give.2 } }
  if 0 < give.2 then
    updateLine give.1.soLineId (SalesOrderLine.addPicked give.2) noted
  else noted

/-- The lines of a shorted task. -/
def creditShorted (task : PickTask) (quantityAvailable : ℤ) (db : Db) : Db :=
  match breakdownOf db task.pickTaskId with
  | [] =>
      updateLine task.soLineId? (SalesOrderLine.addPicked quantityAvailable) db
  | share :: rest =>
      run creditGive db (gives quantityAvailable (share :: rest))

/-! ## The services -/

structure SettledTask where
  pickTaskId : ℕ
  status : TaskStatus
  sku : String
  quantityToPick : ℤ
  quantityPicked : ℤ
  toteNumber : Option String
  remainingTasks : ℕ
  deriving DecidableEq, Repr

/-- `SELECT COUNT(*) FROM pick_tasks WHERE batch_id = :bid AND status =
'PENDING'`. -/
def pendingCount (db : Db) (batchId : ℕ) : ℕ :=
  (db.pickTasks.select fun task => task.batchId = batchId ∧ task.status = .taskPending).length

/-- The checks both services start with. -/
def loadPendingTask (db : Db) (pickTaskId : ℕ) : Except ServiceError PickTask := do
  let task ← orThrow (db.pickTasks.find? pickTaskId) (.valueError "Pick task not found")
  require (task.status = .taskPending) (.valueError s!"Pick task is already {task.status.text}")
  pure task

/-- A confirmed sales-order task. -/
def confirmSalesOrderTask (ctx : RequestContext) (task : PickTask)
    (quantityPicked : ℤ) (db : Db) : Db :=
  takePicked ctx.now task.itemId task.binId quantityPicked task.quantityToPick
    (creditConfirmed task quantityPicked db)

/-- Steps 4 and 5 of `confirm_pick`.  A transfer-order task credits its
transfer line and leaves the inventory to the approval. -/
def settleConfirmed (ctx : RequestContext) (task : PickTask) (quantityPicked : ℤ)
    (db : Db) : Except ServiceError Db :=
  match task.target with
  | .transferOrder toId toLineId => do
      let credited ← TransferOrders.updateTransferOrderLinePicked db toLineId quantityPicked
      pure (TransferOrders.maybePromoteHeaderToPartiallyPicked credited toId)
  | .salesOrder _ _ => pure (confirmSalesOrderTask ctx task quantityPicked db)

/-- The checks of `confirm_pick` before it writes. -/
def checkConfirm (db : Db) (request : ConfirmPickRequest) :
    Except ServiceError (PickTask × Item) := do
  let task ← loadPendingTask db request.pickTaskId
  require (request.quantityPicked ≤ task.quantityToPick)
    (.valueError
      s!"Cannot pick {request.quantityPicked} - task only requires {task.quantityToPick}")
  let item ← orThrow (db.items.find? task.itemId) (.runtimeError "item row missing")
  require (barcodeMatches request.scannedBarcode item)
    (.barcodeError s!"Wrong item scanned. Expected SKU: {item.sku}")
  pure (task, item)

/-- `confirm_pick`. -/
def confirmPick (ctx : RequestContext) (db : Db) (request : ConfirmPickRequest) :
    Except ServiceError (Db × SettledTask) := do
  let (task, item) ← checkConfirm db request
  let recorded := recordPick task.pickTaskId .taskPicked request.quantityPicked db
  let settled ← settleConfirmed ctx task request.quantityPicked recorded
  pure (settled,
    { pickTaskId := task.pickTaskId
      status := .taskPicked
      sku := item.sku
      quantityToPick := task.quantityToPick
      quantityPicked := request.quantityPicked
      toteNumber := task.toteNumber
      remainingTasks := pendingCount settled task.batchId })

/-- Steps 3 and 4 of `short_pick`, which has no transfer-order branch. -/
def shortTask (ctx : RequestContext) (task : PickTask) (quantityAvailable : ℤ)
    (db : Db) : Db :=
  creditShorted task quantityAvailable
    (takePicked ctx.now task.itemId task.binId quantityAvailable task.quantityToPick db)

/-- Steps 3 to 5 of `short_pick`.  The audit entry it writes before its only commit
names the task's sales order, and `audit_log.entity_id` is not null: for a
transfer-order task the insert fails, and the transaction rolls back. -/
def settleShorted (ctx : RequestContext) (task : PickTask) (quantityAvailable : ℤ)
    (db : Db) : Except ServiceError Db := do
  require task.soId?.isSome (.integrityError "audit_log_entity_id_not_null")
  pure (shortTask ctx task quantityAvailable db)

/-- `short_pick`. -/
def shortPick (ctx : RequestContext) (db : Db) (request : ShortPickRequest) :
    Except ServiceError (Db × SettledTask) := do
  let task ← loadPendingTask db request.pickTaskId
  require (request.quantityAvailable ≤ task.quantityToPick)
    (.valueError
      s!"Available quantity {request.quantityAvailable} exceeds task requirement {task.quantityToPick} - use confirm instead")
  let settled ← settleShorted ctx task request.quantityAvailable
    (recordPick task.pickTaskId .taskShort request.quantityAvailable db)
  pure (settled,
    { pickTaskId := task.pickTaskId
      status := .taskShort
      sku := skuOf db task.itemId
      quantityToPick := task.quantityToPick
      quantityPicked := request.quantityAvailable
      toteNumber := task.toteNumber
      remainingTasks := pendingCount settled task.batchId })

/-! ## What an accepted pick did -/

variable {db db' : Db} {ctx : RequestContext} {settled : SettledTask}

theorem loadPendingTask_eq_ok {pickTaskId : ℕ} {task : PickTask} :
    loadPendingTask db pickTaskId = .ok task ↔
      db.pickTasks.find? pickTaskId = some task ∧ task.status = .taskPending := by
  simp only [loadPendingTask, bind_eq_ok, orThrow_eq_ok, require_eq_ok, pure_eq_ok]
  constructor
  · rintro ⟨found, hfound, -, hpending, rfl⟩
    exact ⟨hfound, hpending⟩
  · rintro ⟨hfound, hpending⟩
    exact ⟨task, hfound, (), hpending, rfl⟩

/-- The state after an accepted `confirm_pick`, by the kind of task. -/
inductive Confirmed (ctx : RequestContext) (db : Db) (task : PickTask)
    (quantity : ℤ) (db' : Db) : Prop
  | salesOrder (soId : ℕ) (soLineId : Option ℕ)
      (htarget : task.target = .salesOrder soId soLineId)
      (hstate : db' = confirmSalesOrderTask ctx task quantity
        (recordPick task.pickTaskId .taskPicked quantity db))
  | transferOrder (toId toLineId : ℕ) (credited : Db)
      (htarget : task.target = .transferOrder toId toLineId)
      (hcredited : TransferOrders.updateTransferOrderLinePicked
        (recordPick task.pickTaskId .taskPicked quantity db) toLineId quantity = .ok credited)
      (hstate : db' = TransferOrders.maybePromoteHeaderToPartiallyPicked credited toId)

theorem checkConfirm_ok {request : ConfirmPickRequest} {item : Item}
    (hchecked : checkConfirm db request = .ok (task, item)) :
    db.pickTasks.find? request.pickTaskId = some task ∧ task.status = .taskPending ∧
      request.quantityPicked ≤ task.quantityToPick := by
  simp only [checkConfirm, bind_eq_ok, loadPendingTask_eq_ok, require_eq_ok, orThrow_eq_ok,
    pure_eq_ok, Prod.mk.injEq] at hchecked
  obtain ⟨found, ⟨hfound, hpending⟩, -, hfits, -, -, -, -, rfl, -⟩ := hchecked
  exact ⟨hfound, hpending, hfits⟩

theorem confirmPick_ok {request : ConfirmPickRequest}
    (hserved : confirmPick ctx db request = .ok (db', settled)) :
    ∃ task, db.pickTasks.find? request.pickTaskId = some task ∧ task.status = .taskPending ∧
      request.quantityPicked ≤ task.quantityToPick ∧
      Confirmed ctx db task request.quantityPicked db' := by
  simp only [confirmPick, bind_eq_ok, pure_eq_ok, Prod.mk.injEq] at hserved
  obtain ⟨⟨task, item⟩, hchecked, state, hstate, rfl, -⟩ := hserved
  obtain ⟨hfound, hpending, hfits⟩ := checkConfirm_ok hchecked
  refine ⟨task, hfound, hpending, hfits, ?_⟩
  cases htarget : task.target with
  | salesOrder soId soLineId =>
      simp only [settleConfirmed, htarget, pure_eq_ok] at hstate
      exact .salesOrder soId soLineId htarget hstate.symm
  | transferOrder toId toLineId =>
      simp only [settleConfirmed, htarget, bind_eq_ok, pure_eq_ok] at hstate
      obtain ⟨credited, hcredited, rfl⟩ := hstate
      exact .transferOrder toId toLineId credited htarget hcredited rfl

theorem shortPick_ok {request : ShortPickRequest}
    (hserved : shortPick ctx db request = .ok (db', settled)) :
    ∃ task, db.pickTasks.find? request.pickTaskId = some task ∧ task.status = .taskPending ∧
      request.quantityAvailable ≤ task.quantityToPick ∧
      db' = shortTask ctx task request.quantityAvailable
        (recordPick task.pickTaskId .taskShort request.quantityAvailable db) := by
  simp only [shortPick, settleShorted, bind_eq_ok, loadPendingTask_eq_ok, require_eq_ok,
    pure_eq_ok, Prod.mk.injEq] at hserved
  obtain ⟨task, ⟨hfound, hpending⟩, -, hfits, state, ⟨-, -, rfl⟩, rfl, -⟩ := hserved
  exact ⟨task, hfound, hpending, hfits, rfl⟩

/-- Only tasks of sales orders are shorted. -/
theorem shortPick_soId {request : ShortPickRequest}
    (hserved : shortPick ctx db request = .ok (db', settled)) :
    ∃ task, db.pickTasks.find? request.pickTaskId = some task ∧ task.soId?.isSome := by
  simp only [shortPick, settleShorted, bind_eq_ok, loadPendingTask_eq_ok, require_eq_ok] at hserved
  obtain ⟨task, ⟨hfound, -⟩, -, -, -, ⟨-, hsalesOrder, -⟩, -⟩ := hserved
  exact ⟨task, hfound, hsalesOrder⟩

end SentryWms.Picking

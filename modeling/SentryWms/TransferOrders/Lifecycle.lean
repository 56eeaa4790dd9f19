import SentryWms.System
import SentryWms.TransferOrders.Stock

/-!
# Transfer-order requests

The admin routes of a transfer order from its import to its closure, and the
picking services its tasks go through.  Commitments are reserved when the order is
imported, picks only count on the lines, and stock moves when a submitted snapshot
is approved.
-/

namespace SentryWms.TransferOrders

open Relational Inventory Picking

/-! ## Import -/

/-- One record of the request body. -/
structure ImportRecord where
  sku : String
  quantity : ℤ
  deriving DecidableEq, Repr

/-- The request body, codes stripped, with the numbers `generate_to_number` draws
from the clock at the two attempts. -/
structure ImportRequest where
  sourceWarehouseCode : String
  destinationWarehouseCode : String
  records : List ImportRecord
  toNumber : String
  retryToNumber : String
  records_ne_nil : records ≠ []
  records_le : records.length ≤ 5000

/-- `_FORMULA_PREFIXES`. -/
def formulaPrefixes : List Char := "=+-@\t\r".toList

/-- The checks of `TransferOrderImportRow`. -/
def validRecord (record : ImportRecord) : Bool :=
  record.sku ≠ "" ∧ record.sku.length ≤ 128 ∧
    (record.sku.toList.head?.all fun first => first ∉ formulaPrefixes) ∧
    0 < record.quantity ∧ record.quantity ≤ 1000000

/-- A record that passed its checks. -/
structure ImportRow where
  rowIndex : ℕ
  sku : String
  itemId : ℕ
  requestedQty : ℤ
  deriving DecidableEq, Repr

/-- The checks and the item lookup of one record. -/
def readRecord (db : Db) (record : ImportRecord) (rowIndex : ℕ) : ImportRowError ⊕ ImportRow :=
  if validRecord record then
    match db.items.rows.find? fun item => item.sku = record.sku with
    | none => .inl (.unknownSku rowIndex record.sku)
    | some item =>
        .inr
          { rowIndex := rowIndex
            sku := record.sku
            itemId := item.itemId
            requestedQty := record.quantity }
  else .inl (.validationError rowIndex)

def readRecords (db : Db) (records : List ImportRecord) : List (ImportRowError ⊕ ImportRow) :=
  records.zipIdx.map fun (record, rowIndex) => readRecord db record rowIndex

/-- `_resolve_warehouse_id`. -/
def resolveWarehouseId (db : Db) (code : String) : Option ℕ :=
  (db.warehouses.rows.find? fun warehouse =>
    warehouse.warehouseCode = code ∧ warehouse.isActive).map Warehouse.warehouseId

/-- A row with what the source warehouse had available for it and what the import
committed. -/
structure CommittedRow where
  row : ImportRow
  availableQty : ℤ
  committedQty : ℤ
  deriving DecidableEq, Repr

/-- The reserve loop over the rows. -/
def commitRows (sourceWarehouseId : ℕ) :
    List ImportRow → Db → Db × List CommittedRow
  | [], db => (db, [])
  | row :: rest, db =>
      let available := totalAvailable db row.itemId sourceWarehouseId
      let committed := max 0 (min row.requestedQty available)
      let (reserved, later) := commitRows sourceWarehouseId rest
        (reserveInventory row.itemId sourceWarehouseId committed db)
      (reserved, ⟨row, available, committed⟩ :: later)

/-- `INSERT INTO transfer_orders`, with the `CHECK` on its warehouses. -/
def insertTransferOrder (toNumber : String)
    (sourceWarehouseId destinationWarehouseId : ℕ) (db : Db) :
    Except ServiceError Db := do
  require (sourceWarehouseId ≠ destinationWarehouseId)
    (.integrityError "transfer_orders_warehouses_distinct")
  require (∀ header ∈ db.transferOrders.rows, header.toNumber ≠ toNumber)
    (.integrityError "transfer_orders_to_number_key")
  pure
    { db with
      transferOrders := db.transferOrders.insert fun toId =>
        { toId := toId
          toNumber := toNumber
          sourceWarehouseId := sourceWarehouseId
          destinationWarehouseId := destinationWarehouseId } }

/-- The insert with its retry.  A number that is taken rolls the transaction back,
reservations included, and the second attempt goes on from there. -/
def insertHeader (request : ImportRequest)
    (sourceWarehouseId destinationWarehouseId : ℕ) (before reserved : Db) :
    Except ServiceError Db :=
  match insertTransferOrder request.toNumber sourceWarehouseId
      destinationWarehouseId reserved with
  | .error (.integrityError "transfer_orders_to_number_key") =>
      insertTransferOrder request.retryToNumber sourceWarehouseId destinationWarehouseId before
  | outcome => outcome

/-- `INSERT INTO transfer_order_lines`: a row nothing could be committed to starts
short-closed. -/
def insertTransferLine (toId : ℕ) (db : Db) (numbered : CommittedRow × ℕ) : Db :=
  { db with
    transferOrderLines := db.transferOrderLines.insert fun toLineId =>
      { toLineId := toLineId
        toId := toId
        itemId := numbered.1.row.itemId
        lineNumber := numbered.2
        requestedQty := numbered.1.row.requestedQty
        committedQty := numbered.1.committedQty
        pickedQty := 0
        approvedQty := 0
        status :=
          if 0 < numbered.1.committedQty then .toLinePending
          else .toLineShortClosed } }

/-- A row of the shortage payload. -/
structure Shortage where
  rowIndex : ℕ
  sku : String
  requestedQty : ℤ
  availableQty : ℤ
  committedQty : ℤ
  shortfall : ℤ
  deriving DecidableEq, Repr

def shortageOf (committed : CommittedRow) : Option Shortage :=
  if committed.committedQty < committed.row.requestedQty then
    some
      { rowIndex := committed.row.rowIndex
        sku := committed.row.sku
        requestedQty := committed.row.requestedQty
        availableQty := committed.availableQty
        committedQty := committed.committedQty
        shortfall := committed.row.requestedQty - committed.committedQty }
  else none

structure ImportedTransferOrder where
  toId : ℕ
  lineCount : ℕ
  shortages : List Shortage
  deriving DecidableEq, Repr

/-- What the import writes once its rows are resolved. -/
def importRows (request : ImportRequest)
    (sourceWarehouseId destinationWarehouseId : ℕ) (rows : List ImportRow)
    (db : Db) : Except ServiceError (Db × ImportedTransferOrder) := do
  let (reserved, committed) := commitRows sourceWarehouseId
    (orderBy (fun left right => left.itemId ≤ right.itemId) rows) db
  let opened ← insertHeader request sourceWarehouseId destinationWarehouseId db reserved
  let toId := db.transferOrders.nextKey
  pure (run (insertTransferLine toId) opened (committed.zipIdx 1),
    { toId := toId
      lineCount := committed.length
      shortages := committed.filterMap shortageOf })

def unknownWarehouse (field value : String) : ServiceError :=
  .jsonError 404 "unknown_warehouse" [("field", some field), ("value", some value)]

/-- `import_transfer_order`. -/
def importTransferOrder (db : Db) (request : ImportRequest) :
    Except ServiceError (Db × ImportedTransferOrder) := do
  require (request.sourceWarehouseCode ≠ request.destinationWarehouseCode)
    (.jsonError 422 "source_and_destination_must_differ"
      [("warehouse_code", some request.sourceWarehouseCode)])
  let sourceWarehouseId ← orThrow (resolveWarehouseId db request.sourceWarehouseCode)
    (unknownWarehouse "source_warehouse_code" request.sourceWarehouseCode)
  let destinationWarehouseId ← orThrow (resolveWarehouseId db request.destinationWarehouseCode)
    (unknownWarehouse "destination_warehouse_code" request.destinationWarehouseCode)
  let read := readRecords db request.records
  require (read.filterMap Sum.getLeft? = []) (.rowErrors (read.filterMap Sum.getLeft?))
  importRows request sourceWarehouseId destinationWarehouseId (read.filterMap Sum.getRight?) db

/-! ## Start of picking -/

/-- The lines that still need picking, by number. -/
def linesToPick (db : Db) (toId : ℕ) : List TransferOrderLine :=
  orderBy (fun left right => left.lineNumber ≤ right.lineNumber)
    (db.transferOrderLines.select fun line =>
      line.toId = toId ∧ pickable line ∧ line.pickedQty < line.committedQty)

/-- The bins a task may be planned from: all with stock, reserved or not. -/
def stockedRows (db : Db) (itemId warehouseId : ℕ) : List InventoryRow :=
  orderBy (fun left right => left.inventoryId ≤ right.inventoryId)
    (db.inventory.select fun row =>
      row.itemId = itemId ∧ row.warehouseId = warehouseId ∧ 0 < row.quantityOnHand)

/-- `INSERT INTO pick_tasks` for one bin of a line; `numbered` carries the take and
its place in the walk. -/
def insertTransferTask (batchId : ℕ) (line : TransferOrderLine) (db : Db)
    (numbered : (InventoryRow × ℤ) × ℕ) : Db :=
  { db with
    pickTasks := db.pickTasks.insert fun pickTaskId =>
      { pickTaskId := pickTaskId
        batchId := batchId
        target := .transferOrder line.toId line.toLineId
        itemId := line.itemId
        binId := numbered.1.1.binId
        quantityToPick := numbered.1.2
        pickSequence := numbered.2 } }

/-- The tasks of the lines, one after the other. -/
def planTransferLines (batchId sourceWarehouseId : ℕ) :
    ℕ → List TransferOrderLine → Db → Except ServiceError Db
  | _, [], db => pure db
  | pickSequence, line :: rest, db => do
      let needed := line.committedQty - line.pickedQty
      let rows := stockedRows db line.itemId sourceWarehouseId
      let takes := draws InventoryRow.quantityOnHand needed rows
      let remaining := needed - drawn InventoryRow.quantityOnHand needed rows
      require (needed ≤ drawn InventoryRow.quantityOnHand needed rows)
        (.jsonError 409 "no_pickable_inventory"
          [("to_line_id", some (toString line.toLineId)),
            ("item_id", some (toString line.itemId)), ("remaining", some (toString remaining))])
      planTransferLines batchId sourceWarehouseId (pickSequence + takes.length) rest
        (run (insertTransferTask batchId line) db (takes.zipIdx (pickSequence + 1)))

def invalidStatus (error : String) (header : TransferOrder) : ServiceError :=
  .jsonError 409 error [("current_status", some header.status.text)]

/-- `start_to_picking`; the response carries the batch. -/
def startToPicking (ctx : RequestContext) (db : Db) (toId : ℕ) :
    Except ServiceError (Db × ℕ) := do
  let header ← orThrow (db.transferOrders.find? toId) (.httpError 404 "Transfer order not found")
  require (header.status = .toOpen ∨ header.status = .toPartiallyPicked)
    (invalidStatus "invalid_status_for_start_picking" header)
  require (linesToPick db toId ≠ [])
    (.jsonError 409 "no_lines_to_pick"
      [("detail", some "Every line is either fully picked or short-closed.")])
  let batchId := db.pickBatches.nextKey
  let planned ← planTransferLines batchId header.sourceWarehouseId 0
    (linesToPick db toId) (openBatch ctx header.sourceWarehouseId db)
  pure (planned, batchId)

/-! ## Approval -/

/-- The statement on an approved line. -/
def addApproved (qty : ℤ) (line : TransferOrderLine) : TransferOrderLine :=
  { line with
    approvedQty := line.approvedQty + qty
    status :=
      if line.approvedQty + qty = line.pickedQty ∧
          line.pickedQty = line.committedQty then .toLineApproved
      else line.status }

/-- `UPDATE transfer_order_lines ... WHERE to_line_id = :lid`, with the `CHECK`
`approved_qty <= picked_qty`. -/
def approveLine (toLineId : ℕ) (qty : ℤ) (db : Db) : Except ServiceError Db := do
  require (∀ line ∈ db.transferOrderLines.rows, line.toLineId = toLineId →
      line.approvedQty + qty ≤ line.pickedQty)
    (.integrityError "transfer_order_lines_check")
  pure
    { db with
      transferOrderLines := db.transferOrderLines.updateKey toLineId (addApproved qty) }

/-- One entry of the snapshot: credit the line, and move the units. -/
def moveEntry (now : ℕ) (header : TransferOrder) (entry : ℕ × ℕ × ℤ) (db : Db) :
    Except ServiceError Db :=
  if entry.2.2 ≤ 0 then pure db
  else do
    let credited ← approveLine entry.1 entry.2.2 db
    let taken ← decrementSourceInventory now entry.2.1 header.sourceWarehouseId entry.2.2 credited
    creditDestinationInventory now entry.2.1 header.destinationWarehouseId entry.2.2 taken

def moveEntries (now : ℕ) (header : TransferOrder) :
    List (ℕ × ℕ × ℤ) → Db → Except ServiceError Db
  | [], db => pure db
  | entry :: rest, db => do
      let moved ← moveEntry now header entry db
      moveEntries now header rest moved

/-- `_self_approval_blocked`. -/
def selfApprovalBlocked (db : Db) : Bool :=
  db.transferOrderBlockSelfApproval.any fun value => value.toLower = "true"

/-- `UPDATE transfer_orders SET status = :st WHERE to_id = :tid`. -/
def setTransferStatus (toId : ℕ) (status : TransferStatus) (db : Db) : Db :=
  { db with
    transferOrders := db.transferOrders.updateKey toId fun header =>
      { header with status := status } }

/-- `UPDATE transfer_order_approvals` with the answer. -/
def answerApproval (toApprovalId : ℕ) (status : ApprovalStatus)
    (approvedBy : Option String) (db : Db) : Db :=
  { db with
    transferOrderApprovals := db.transferOrderApprovals.updateKey toApprovalId
      fun approval =>
        { approval with status := status, approvedBy := approvedBy } }

/-- An approval that is answered already; only the approve route tells by whom. -/
def approvalNotPending (names : Bool) (approval : TransferOrderApproval) : ServiceError :=
  .jsonError 409 "approval_not_pending"
    (("current_status", some approval.status.text) ::
      if names then [("approved_by", approval.approvedBy)] else [])

/-- The pending approval both answers look up. -/
def loadPendingApproval (names : Bool) (db : Db) (toId toApprovalId : ℕ) :
    Except ServiceError TransferOrderApproval := do
  let approval ← orThrow
    ((db.transferOrderApprovals.find? toApprovalId).filter fun approval => approval.toId = toId)
    (.httpError 404 "Approval row not found")
  require (approval.status = .approvalPending) (approvalNotPending names approval)
  pure approval

/-- The entries of a snapshot in lock order. -/
def snapshotEntries (approval : TransferOrderApproval) : List (ℕ × ℕ × ℤ) :=
  orderBy (fun left right => left.2.1 ≤ right.2.1) approval.linesSnapshot

/-- What follows the stock moves of an approval. -/
def finishApproval (ctx : RequestContext) (header : TransferOrder)
    (approval : TransferOrderApproval) (moved : Db) : Db :=
  let answered := answerApproval approval.toApprovalId .approvalApproved (some ctx.username) moved
  let settled :=
    if evaluateToClosure answered header.toId then
      setTransferStatus header.toId .toClosed answered
    else answered
  if (snapshotEntries approval).any fun entry => 0 < entry.2.2 then
    emitEvent ctx .inventoryTransferCompleted approval.toApprovalId
      header.destinationWarehouseId settled
  else settled

def selfApproval (approval : TransferOrderApproval) : ServiceError :=
  .jsonError 403 "self_approval_blocked"
    [("submitted_by", some approval.submittedBy),
      ("detail", some
        "app_settings.transfer_order_block_self_approval is TRUE; a different admin must approve this submission.")]

def emptySnapshot : ServiceError :=
  .jsonError 422 "approval_snapshot_empty"
    [("detail", some "Approval row has no line snapshot; nothing to approve.")]

/-- `except ValueError` around the moves; a violated `CHECK` is not caught. -/
def orApprovalFailed : Except ServiceError Db → Except ServiceError Db
  | .error (.valueError detail) =>
      .error (.jsonError 409 "approval_failed" [("detail", some detail)])
  | outcome => outcome

@[simp]
theorem orApprovalFailed_eq_ok {outcome : Except ServiceError Db} {db : Db} :
    orApprovalFailed outcome = .ok db ↔ outcome = .ok db := by
  unfold orApprovalFailed
  split <;> simp

@[simp]
theorem orApprovalFailed_eq_integrityError {outcome : Except ServiceError Db}
    {relation : String} :
    orApprovalFailed outcome = .error (.integrityError relation) ↔
      outcome = .error (.integrityError relation) := by
  unfold orApprovalFailed
  split <;> simp

/-- `approve_transfer_order_approval`.  It looks at the status of the approval, not
at those of the order and its lines. -/
def approveTransferOrderApproval (ctx : RequestContext) (db : Db)
    (toId toApprovalId : ℕ) : Except ServiceError (Db × ℕ) := do
  let approval ← loadPendingApproval true db toId toApprovalId
  require (¬ (selfApprovalBlocked db ∧ approval.submittedBy = ctx.username))
    (selfApproval approval)
  let header ← orThrow (db.transferOrders.find? toId) (.httpError 404 "Transfer order not found")
  require (approval.linesSnapshot ≠ []) emptySnapshot
  let moved ← orApprovalFailed (moveEntries ctx.now header (snapshotEntries approval) db)
  pure (finishApproval ctx header approval moved,
    ((snapshotEntries approval).filter fun entry => 0 < entry.2.2).length)

/-- `reject_transfer_order_approval`. -/
def rejectTransferOrderApproval (db : Db) (toId toApprovalId : ℕ) :
    Except ServiceError (Db × ApprovalStatus) := do
  let approval ← loadPendingApproval false db toId toApprovalId
  pure (answerApproval approval.toApprovalId .approvalRejected approval.approvedBy
    db, .approvalRejected)

/-! ## Cancel, delete and short-close -/

/-- The lines `_release_reservations` walks, by item.  It does not look at their
status. -/
def linesToRelease (db : Db) (toId : ℕ) : List TransferOrderLine :=
  orderBy (fun left right => left.itemId ≤ right.itemId)
    (db.transferOrderLines.select fun line =>
      line.toId = toId ∧ line.approvedQty < line.committedQty)

/-- What a line still has reserved. -/
def outstanding (line : TransferOrderLine) : ℤ := line.committedQty - line.approvedQty

/-- The release of one line. -/
def releaseLine (sourceWarehouseId : ℕ) (db : Db) (line : TransferOrderLine) : Db :=
  releaseInventoryAllocation line.itemId sourceWarehouseId (outstanding line) db

/-- `_release_reservations`. -/
def releaseReservations (toId sourceWarehouseId : ℕ) (db : Db) : Db :=
  run (releaseLine sourceWarehouseId) db (linesToRelease db toId)

/-- `cancel_transfer_order`. -/
def cancelTransferOrder (db : Db) (toId : ℕ) :
    Except ServiceError (Db × TransferStatus) := do
  let header ← orThrow (db.transferOrders.find? toId) (.httpError 404 "Transfer order not found")
  validateHeaderTransition "invalid_status_for_cancel" header.status .toCancelled
  let answered := db.transferOrderApprovals.select fun approval =>
    approval.toId = toId ∧ approval.status ≠ .approvalPending
  require (answered = [])
    (.jsonError 409 "to_already_partially_approved"
      [("non_pending_approvals", some (toString answered.length))])
  pure (setTransferStatus toId .toCancelled
    (releaseReservations toId header.sourceWarehouseId db), .toCancelled)

/-- `delete_transfer_order`.  The lines go with the header; tasks reference the
header without a cascade. -/
def deleteTransferOrder (db : Db) (toId : ℕ) :
    Except ServiceError (Db × Unit) := do
  let header ← orThrow (db.transferOrders.find? toId) (.httpError 404 "Transfer order not found")
  let picked := db.transferOrderLines.select fun line => line.toId = toId ∧ 0 < line.pickedQty
  let approvals := db.transferOrderApprovals.select fun approval => approval.toId = toId
  require (picked = [] ∧ approvals = [])
    (.jsonError 409 "to_not_deletable"
      [("any_picks", some (toString picked.length)),
        ("any_approvals", some (toString approvals.length)),
        ("detail", some
          "Use cancel for TOs with picks or approvals; delete only applies to OPEN TOs with no downstream activity.")])
  require (∀ task ∈ db.pickTasks.rows, task.toId? ≠ some toId)
    (.integrityError "pick_tasks_to_id_fkey")
  let released := releaseReservations toId header.sourceWarehouseId db
  pure
    ({ released with
        transferOrders := released.transferOrders.delete fun row => row.toId = toId
        transferOrderLines := released.transferOrderLines.delete fun line => line.toId = toId }, ())

/-- `short_close_to_line`; the response carries the released units.  It does not
look at the status of the header. -/
def shortCloseToLine (db : Db) (toId toLineId : ℕ) :
    Except ServiceError (Db × ℤ) := do
  let line ← orThrow
    ((db.transferOrderLines.find? toLineId).filter fun line => line.toId = toId)
    (.httpError 404 "Transfer order line not found")
  let header ← orThrow (db.transferOrders.find? toId)
    (.httpError 404 "Transfer order line not found")
  validateLineTransition "invalid_line_status_for_short_close" line.status .toLineShortClosed
  let released := releaseLine header.sourceWarehouseId db line
  pure
    ({ released with
        transferOrderLines := released.transferOrderLines.updateKey toLineId
          fun row => { row with status := .toLineShortClosed } },
      outstanding line)

/-! ## The system of requests -/

/-- The tables of the transfer orders are the same. -/
structure SameTransfers (before after : Db) : Prop where
  orders : after.transferOrders = before.transferOrders
  lines : after.transferOrderLines = before.transferOrderLines
  approvals : after.transferOrderApprovals = before.transferOrderApprovals

/-- A transaction of the rest of the system: it may do anything but write to the
tables of the transfer orders. -/
structure OutsideRequest where
  serve : RequestContext → Db → Db
  sameTransfers : ∀ ctx db, SameTransfers db (serve ctx db)

inductive TransferRequest
  | outside (request : OutsideRequest)
  | importTransferOrder (request : ImportRequest)
  | startToPicking (toId : ℕ)
  | confirmPick (request : ConfirmPickRequest)
  | shortPick (request : ShortPickRequest)
  | completeBatch (batchId : ℕ)
  | cancelBatch (batchId : ℕ)
  | submitPicks (toId : ℕ)
  | approve (toId toApprovalId : ℕ)
  | reject (toId toApprovalId : ℕ)
  | cancel (toId : ℕ)
  | delete (toId : ℕ)
  | shortClose (toId toLineId : ℕ)

structure TransferCall where
  ctx : RequestContext
  request : TransferRequest

/-- The state after a request. -/
def serveTransfer (db : Db) (call : TransferCall) : Db :=
  let ctx := call.ctx
  match call.request with
  | .outside request => request.serve ctx db
  | .importTransferOrder request =>
      committed db (importTransferOrder db request)
  | .startToPicking toId => committed db (startToPicking ctx db toId)
  | .confirmPick request => committed db (confirmPick ctx db request)
  | .shortPick request => committed db (shortPick ctx db request)
  | .completeBatch batchId => committed db (completeBatch ctx db batchId)
  | .cancelBatch batchId => committed db (fullRevertBatch ctx db batchId)
  | .submitPicks toId => submitPicks db toId ctx.username
  | .approve toId toApprovalId =>
      committed db (approveTransferOrderApproval ctx db toId toApprovalId)
  | .reject toId toApprovalId =>
      committed db (rejectTransferOrderApproval db toId toApprovalId)
  | .cancel toId => committed db (cancelTransferOrder db toId)
  | .delete toId => committed db (deleteTransferOrder db toId)
  | .shortClose toId toLineId =>
      committed db (shortCloseToLine db toId toLineId)

/-! ## A small pair of warehouses -/

namespace SmallTransfer

/-- One item in stock in two bins of warehouse `WEST`, and a staging bin in
warehouse `EAST`.  Examples start here. -/
def db : Db :=
  { Db.empty with
    items := SmallWarehouse.db.items
    warehouses := (Table.empty.insert fun warehouseId =>
        { warehouseId := warehouseId
          warehouseCode := "WEST" }).insert fun warehouseId =>
        { warehouseId := warehouseId
          warehouseCode := "EAST" }
    bins := ((Table.empty.insert fun binId =>
        { binId := binId
          warehouseId := 1
          binCode := "A-01"
          binType := .binPickable
          pickSequence := 1 }).insert fun binId =>
        { binId := binId
          warehouseId := 1
          binCode := "A-02"
          binType := .binPickable
          pickSequence := 2 }).insert fun binId =>
        { binId := binId
          warehouseId := 2
          binCode := "DOCK"
          binType := .binStaging }
    inventory := (Table.empty.insert fun inventoryId =>
        { inventoryId := inventoryId
          itemId := 1
          binId := 1
          warehouseId := 1
          quantityOnHand := 5
          updatedAt := 0 }).insert fun inventoryId =>
        { inventoryId := inventoryId
          itemId := 1
          binId := 2
          warehouseId := 1
          quantityOnHand := 5
          updatedAt := 0 } }

/-- A transfer of the item from `WEST` to `EAST`. -/
def transfer (toNumber : String) (quantity : ℤ) : TransferRequest :=
  .importTransferOrder
    { sourceWarehouseCode := "WEST"
      destinationWarehouseCode := "EAST"
      records := [⟨"WIDGET", quantity⟩]
      toNumber := toNumber
      retryToNumber := toNumber ++ "-R"
      records_ne_nil := List.cons_ne_nil _ _
      records_le := by simp }

/-- `pat`'s calls with the requests, one a clock tick. -/
def calls (requests : List TransferRequest) : List TransferCall :=
  (requests.zipIdx 1).map fun (request, now) => ⟨SmallWarehouse.pat now, request⟩

/-- The warehouses after `pat` has sent the requests. -/
def after (requests : List TransferRequest) : Db := run serveTransfer db (calls requests)

end SmallTransfer

end SentryWms.TransferOrders

import SentryWms.Statements

/-!
# Receipts of purchase orders

Receiving against a purchase order, the mobile screen's cancellation of a whole
receiving session, and the administrator's reversal of one receipt.  The two
reversals differ: the first is scoped by the operator's warehouses and compares
purchase orders with `!=`, the second refuses a receipt without a purchase order.
-/

namespace SentryWms.Receiving

open Relational Inventory

/-! ## Backorders that stock makes fulfillable -/

/-- `ORDER BY backorder_opened_at ASC`: a missing date comes last. -/
def openedBefore (left right : SalesOrder) : Prop :=
  match left.backorderOpenedAt, right.backorderOpenedAt with
  | some opened, some other => opened ≤ other
  | none, some _ => False
  | _, none => True

instance : DecidableRel openedBefore := fun left right => by
  unfold openedBefore
  split <;> infer_instance

/-- The backorders of the warehouse that wait for the item. -/
def waitingBackorders (db : Db) (warehouseId itemId : ℕ) : List SalesOrder :=
  orderBy openedBefore
    (db.salesOrders.select fun order =>
      order.status = .soWaitingStock ∧ order.warehouseId = warehouseId ∧
        (linesOf db order.soId).any fun line => line.itemId = itemId)

/-- `SUM(GREATEST(quantity_on_hand - quantity_allocated, 0))` over the pickable
bins. -/
def satisfiableUnits (db : Db) (itemId warehouseId : ℕ) : ℤ :=
  db.inventory.sum fun row =>
    if row.itemId = itemId ∧ row.warehouseId = warehouseId ∧ inPickableBin db row
    then max (row.quantityOnHand - row.quantityAllocated) 0 else 0

def satisfiable (db : Db) (warehouseId soId : ℕ) : Bool :=
  (linesOf db soId).all fun line =>
    line.quantityOrdered ≤ satisfiableUnits db line.itemId warehouseId

/-- One backorder of the walk. -/
def releaseBackorder (ctx : RequestContext) (warehouseId : ℕ) (db : Db)
    (order : SalesOrder) : Db :=
  if satisfiable db warehouseId order.soId then
    emitEvent ctx .backorderFulfillable order.soId warehouseId
      (setOrderStatus order.soId .soOpen db)
  else db

/-- `release_satisfiable_backorders`. -/
def releaseSatisfiableBackorders (ctx : RequestContext) (warehouseId itemId : ℕ)
    (db : Db) : Db :=
  run (releaseBackorder ctx warehouseId) db (waitingBackorders db warehouseId itemId)

/-! ## Receiving -/

/-- An entry of the request, with the `uuid4` its receipt is stored under. -/
structure ReceiveItemEntry where
  itemId : ℕ
  quantity : ℤ
  binId : ℕ
  lotNumber : Option String
  externalId : String
  quantity_pos : 0 < quantity
  quantity_le : quantity ≤ 100000

structure ReceiveItemsRequest where
  poId : ℕ
  items : List ReceiveItemEntry
  items_ne_nil : items ≠ []

/-- `warehouse_scope_clause`: an administrator sees every warehouse. -/
def inScope (ctx : RequestContext) (warehouseId : ℕ) : Bool :=
  ctx.isAdmin ∨ warehouseId ∈ ctx.warehouseIds

/-- `INSERT INTO item_receipts ... RETURNING receipt_id`; `external_id` is
unique. -/
def insertReceipt (receipt : ItemReceipt) (db : Db) : Except ServiceError Db := do
  require (∀ stored ∈ db.itemReceipts.rows, stored.externalId ≠ receipt.externalId)
    (.integrityError "item_receipts_external_id_key")
  pure
    { db with
      itemReceipts := db.itemReceipts.insert fun receiptId =>
        { receipt with receiptId := receiptId } }

/-- `UPDATE purchase_order_lines ... WHERE po_line_id = :id`; a `NULL` identifier
matches no row. -/
def updatePoLine (poLineId : Option ℕ) (set : PurchaseOrderLine → PurchaseOrderLine)
    (db : Db) (hset : ∀ line, @SameKey (set line).poLineId line.poLineId := by
      first | with_reducible exact Relational.key_kept | as_aux_lemma => intro _; rfl) : Db :=
  match poLineId with
  | some k =>
      { db with purchaseOrderLines := db.purchaseOrderLines.updateKey k set hset }
  | none => db

/-- `UPDATE purchase_orders SET status = :status WHERE po_id = :id`. -/
def setPoStatus (poId : Option ℕ) (status : PurchaseOrderStatus) (db : Db) : Db :=
  match poId with
  | some k =>
      { db with
        purchaseOrders := db.purchaseOrders.updateKey k fun order =>
          { order with status := status } }
  | none => db

/-- The line of the order for the item. -/
def poLine? (db : Db) (poId itemId : ℕ) : Option PurchaseOrderLine :=
  db.purchaseOrderLines.rows.find? fun line => line.poId = poId ∧ line.itemId = itemId

/-- The lines of a purchase order; `po_id = NULL` matches none. -/
def poLinesOf (db : Db) (poId : Option ℕ) : List PurchaseOrderLine :=
  db.purchaseOrderLines.select fun line => some line.poId = poId

/-- The line once `qty` more units are in. -/
def receiveQuantity (qty : ℤ) (line : PurchaseOrderLine) : PurchaseOrderLine :=
  { line with
    quantityReceived := line.quantityReceived + qty
    status :=
      if line.quantityOrdered ≤ line.quantityReceived + qty then .polReceived
      else .polPartial }

/-- The turn of the loop for one entry: the receipt, and the warning an allowed
over-receipt adds. -/
def receiveEntry (ctx : RequestContext) (poId warehouseId : ℕ) (db : Db)
    (entry : ReceiveItemEntry) : Except ServiceError (Db × ℕ × Option String) := do
  let bin ← orThrow (db.bins.find? entry.binId) (.httpError 404 s!"Bin {entry.binId} not found")
  require (bin.warehouseId = warehouseId)
    (.httpError 400 s!"Bin {entry.binId} does not belong to this PO's warehouse")
  let line ← orThrow (poLine? db poId entry.itemId)
    (.httpError 400 s!"Item {entry.itemId} is not on PO {poId}")
  let remaining := line.quantityOrdered - line.quantityReceived
  require (entry.quantity ≤ remaining ∨ db.allowOverReceipt = some "true")
    (.httpError 400
      s!"Over-receipt not allowed on line {line.lineNumber}: requested {entry.quantity} but only {remaining} remaining. Enable 'allow_over_receipt' in Settings to permit this.")
  let warning :=
    if remaining < entry.quantity then
      some s!"Over-receipt on line {line.lineNumber}: received {entry.quantity} but only {remaining} remaining"
    else none
  let receiptId := db.itemReceipts.nextKey
  let booked ← insertReceipt
    { receiptId := receiptId
      poId := some poId
      poLineId := some line.poLineId
      itemId := entry.itemId
      quantityReceived := entry.quantity
      binId := entry.binId
      warehouseId := warehouseId
      externalId := entry.externalId } db
  let stocked := addInventory ctx.now entry.itemId entry.binId warehouseId
    entry.quantity entry.lotNumber
    (updatePoLine (some line.poLineId) (receiveQuantity entry.quantity) booked)
  pure (releaseSatisfiableBackorders ctx warehouseId entry.itemId
    (emitEvent ctx .receiptCompleted receiptId warehouseId stocked),
    receiptId, warning)

def receiveEntries (ctx : RequestContext) (poId warehouseId : ℕ) :
    List ReceiveItemEntry → Db → Except ServiceError (Db × List (ℕ × Option String))
  | [], db => pure (db, [])
  | entry :: rest, db => do
      let (received, receipt) ← receiveEntry ctx poId warehouseId db entry
      let (finished, receipts) ← receiveEntries ctx poId warehouseId rest received
      pure (finished, receipt :: receipts)

structure ReceivedItems where
  receiptIds : List ℕ
  poStatus : PurchaseOrderStatus
  warnings : List String
  deriving DecidableEq, Repr

/-- `receive_items`. -/
def receiveItems (ctx : RequestContext) (db : Db) (request : ReceiveItemsRequest) :
    Except ServiceError (Db × ReceivedItems) := do
  let order ← orThrow
    ((db.purchaseOrders.find? request.poId).filter fun order => inScope ctx order.warehouseId)
    (.httpError 404 "Purchase order not found")
  require (order.status = .poOpen ∨ order.status = .poPartial)
    (.httpError 400 s!"Purchase order status is {order.status.text}, cannot receive")
  let (received, receipts) ← receiveEntries ctx request.poId order.warehouseId request.items db
  let poStatus :=
    if (poLinesOf received (some request.poId)).all fun line => line.status = .polReceived
    then PurchaseOrderStatus.poReceived else .poPartial
  pure (setPoStatus (some request.poId) poStatus received,
    { receiptIds := receipts.map Prod.fst
      poStatus := poStatus
      warnings := receipts.filterMap Prod.snd })

/-! ## Cancelling a receiving session -/

structure CancelReceivingRequest where
  poId : ℕ
  receiptIds : List ℕ
  deriving DecidableEq, Repr

/-- The receipts of another purchase order among those named.  `po_id != :po_id`
is unknown where `po_id` is `NULL`, so a return receipt is never one of them. -/
def mismatched (ctx : RequestContext) (db : Db) (request : CancelReceivingRequest) :
    List ItemReceipt :=
  db.itemReceipts.select fun receipt =>
    receipt.receiptId ∈ request.receiptIds ∧ inScope ctx receipt.warehouseId ∧
      receipt.poId.any fun poId => poId ≠ request.poId

/-- The scoped lookup: a receipt of another warehouse is not seen. -/
def visibleReceipt? (ctx : RequestContext) (db : Db) (receiptId : ℕ) : Option ItemReceipt :=
  (db.itemReceipts.find? receiptId).filter fun receipt => inScope ctx receipt.warehouseId

/-- `SET quantity_on_hand = GREATEST(0, quantity_on_hand - :qty)` on every row of
the receipt's bin. -/
def takeBack (receipt : ItemReceipt) (db : Db) : Db :=
  { db with
    inventory := db.inventory.update
      (fun row => row.itemId = receipt.itemId ∧ row.binId = receipt.binId ∧
        row.warehouseId = receipt.warehouseId) fun row =>
      { row with
        quantityOnHand := max 0 (row.quantityOnHand - receipt.quantityReceived) } }

/-- The line once `qty` units are reversed by the session cancel. -/
def reverseQuantity (qty : ℤ) (line : PurchaseOrderLine) : PurchaseOrderLine :=
  { line with
    quantityReceived := max 0 (line.quantityReceived - qty)
    status :=
      if max 0 (line.quantityReceived - qty) = 0 then .polPending
      else if line.quantityOrdered ≤ max 0 (line.quantityReceived - qty) then
        .polReceived
      else .polPartial }

/-- `DELETE FROM item_receipts WHERE receipt_id = :id`. -/
def deleteReceipt (receiptId : ℕ) (db : Db) : Db :=
  { db with
    itemReceipts := db.itemReceipts.delete fun receipt => receipt.receiptId = receiptId }

/-- The three statements that reverse a receipt. -/
def reverseReceipt (receipt : ItemReceipt) (db : Db) : Db :=
  deleteReceipt receipt.receiptId
    (updatePoLine receipt.poLineId (reverseQuantity receipt.quantityReceived) (takeBack receipt db))

/-- The reversal loop; a receipt that is not seen, or named before, is skipped. -/
def reverseReceipts (ctx : RequestContext) : List ℕ → Db → Db × List ItemReceipt
  | [], db => (db, [])
  | receiptId :: rest, db =>
      match visibleReceipt? ctx db receiptId with
      | none => reverseReceipts ctx rest db
      | some receipt =>
          let (reversed, later) := reverseReceipts ctx rest (reverseReceipt receipt db)
          (reversed, receipt :: later)

/-- The header's status after a cancel.  No lines count as all received. -/
def refreshPoStatus (db : Db) (poId : Option ℕ) : Db :=
  let lines := poLinesOf db poId
  setPoStatus poId
    (if lines.all fun line => line.quantityOrdered ≤ line.quantityReceived then
      .poReceived
    else if lines.any fun line => 0 < line.quantityReceived then .poPartial
    else .poOpen) db

/-- `cancel_receiving`; the result counts the reversed receipts.  The purchase
orders to refresh are a set: each is refreshed on its own rows, so their order does
not matter. -/
def cancelReceiving (ctx : RequestContext) (db : Db)
    (request : CancelReceivingRequest) : Except ServiceError (Db × ℕ) :=
  if request.receiptIds = [] then .ok (db, 0)
  else do
    require (mismatched ctx db request = [])
      (.httpError 400
        "receipt_ids span multiple purchase orders; refusing to cross-cancel. Cancel one PO at a time.")
    let (reversed, receipts) := reverseReceipts ctx request.receiptIds db
    let poIds := (some request.poId :: receipts.map ItemReceipt.poId).dedup
    pure (run refreshPoStatus reversed poIds, receipts.length)

/-! ## Reversing one receipt -/

/-- `SUM(GREATEST(0, quantity_on_hand - quantity_allocated))` over the
warehouse. -/
def warehouseAvailable (db : Db) (itemId warehouseId : ℕ) : ℤ :=
  db.inventory.sum fun row =>
    if row.itemId = itemId ∧ row.warehouseId = warehouseId
    then max 0 (row.quantityOnHand - row.quantityAllocated) else 0

/-- The row of the receipt's own bin, if it has stock to give. -/
def originalRow (db : Db) (receipt : ItemReceipt) : List InventoryRow :=
  ((db.inventory.rows.find? fun row =>
    row.itemId = receipt.itemId ∧ row.binId = receipt.binId ∧
      row.warehouseId = receipt.warehouseId).filter
        fun row => 0 < row.available).toList

/-- The other bins with stock to give, fullest first. -/
def otherRows (db : Db) (receipt : ItemReceipt) : List InventoryRow :=
  orderBy
    (fun left right =>
      right.available < left.available ∨
        (left.available = right.available ∧ left.binId ≤ right.binId))
    (db.inventory.select fun row =>
      row.itemId = receipt.itemId ∧ row.warehouseId = receipt.warehouseId ∧
        row.binId ≠ receipt.binId ∧ 0 < row.available)

/-- `SET quantity_on_hand = quantity_on_hand - :d WHERE inventory_id = :id`. -/
def subtractOnHand (now : ℕ) (db : Db) (take : InventoryRow × ℤ) : Db :=
  addOnHand now (-take.2) take.1.inventoryId db

/-- The walk of the reversal: the receipt's bin, then the others.  No other bin's
row changes before it is read. -/
def reversalRows (db : Db) (receipt : ItemReceipt) : List InventoryRow :=
  originalRow db receipt ++ otherRows db receipt

/-- `quantity_received = GREATEST(0, quantity_received - :qty)`. -/
def lowerReceived (qty : ℤ) (line : PurchaseOrderLine) : PurchaseOrderLine :=
  { line with quantityReceived := max 0 (line.quantityReceived - qty) }

/-- The status of a line by what it has received. -/
def deriveLineStatus (line : PurchaseOrderLine) : PurchaseOrderLine :=
  { line with
    status :=
      if line.quantityReceived = 0 then .polPending
      else if line.quantityOrdered ≤ line.quantityReceived then .polReceived
      else .polPartial }

/-- The header's status by its lines. -/
def derivedPoStatus (lines : List PurchaseOrderLine) : PurchaseOrderStatus :=
  if lines ≠ [] ∧
      lines.all fun line => line.quantityOrdered ≤ line.quantityReceived then
    .poReceived
  else if lines.any fun line => 0 < line.quantityReceived then .poPartial
  else .poOpen

/-- The first statement of `recompute_po_status`. -/
def deriveLineStatuses (poId : ℕ) (db : Db) : Db :=
  { db with
    purchaseOrderLines := db.purchaseOrderLines.update
      (fun line => line.poId = poId) deriveLineStatus }

/-- `recompute_po_status`. -/
def recomputePoStatus (poId : ℕ) (db : Db) : Db × PurchaseOrderStatus :=
  let derived := deriveLineStatuses poId db
  let status := derivedPoStatus (poLinesOf derived (some poId))
  (setPoStatus (some poId) status derived, status)

structure Unreceived where
  poId : ℕ
  poStatus : PurchaseOrderStatus
  quantityReversed : ℤ
  binDecrements : List (ℕ × ℤ)
  deriving DecidableEq, Repr

/-- `record_unreceive`, with the rows its walk visits. -/
def recordUnreceiveOf (ctx : RequestContext) (walked : ItemReceipt → List InventoryRow)
    (db : Db) (receiptId : ℕ) : Except ServiceError (Db × Unreceived) := do
  let receipt ← orThrow (db.itemReceipts.find? receiptId)
    (.unreceiveError s!"receipt {receiptId} not found" "not_found")
  let poId ← orThrow receipt.poId
    (.unreceiveError "this receipt is an RMA goods-in row, not a PO receipt" "not_a_po_receipt")
  let available := warehouseAvailable db receipt.itemId receipt.warehouseId
  require (receipt.quantityReceived ≤ available)
    (.unreceiveError
      s!"warehouse {receipt.warehouseId} has only {available} available of this item but the receipt is for {receipt.quantityReceived}. The goods may have been picked or shipped; adjust inventory before unreceiving."
      "insufficient_available")
  let takes := draws InventoryRow.available receipt.quantityReceived (walked receipt)
  require (receipt.quantityReceived ≤ (takes.map Prod.snd).sum)
    (.unreceiveError "warehouse pool drained mid-walk; rolling back" "insufficient_available")
  let lowered := updatePoLine receipt.poLineId
    (lowerReceived receipt.quantityReceived) (run (subtractOnHand ctx.now) db takes)
  let (recomputed, poStatus) := recomputePoStatus poId (deleteReceipt receiptId lowered)
  pure (emitEvent ctx .receiptCancelled receiptId receipt.warehouseId recomputed,
    { poId := poId
      poStatus := poStatus
      quantityReversed := receipt.quantityReceived
      binDecrements := takes.map fun take => (take.1.binId, take.2) })

/-- `record_unreceive`. -/
def recordUnreceive (ctx : RequestContext) (db : Db) (receiptId : ℕ) :
    Except ServiceError (Db × Unreceived) :=
  recordUnreceiveOf ctx (reversalRows db) db receiptId

end SentryWms.Receiving

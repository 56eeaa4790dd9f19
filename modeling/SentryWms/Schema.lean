import SentryWms.Relational.Table

/-!
# Schema

The tables the order, stock and receiving flows read and write, with the columns
some modelled statement reads and their defaults.  Keys are natural numbers from a
sequence, quantities are integers (no `CHECK` keeps them from going negative),
timestamps and transaction identifiers are opaque natural numbers.
-/

namespace SentryWms

open Relational

/-! ## Status vocabularies -/

/-- `bins.bin_type`. -/
inductive BinType
  | binStaging
  | binPickableStaging
  | binPickable
  deriving DecidableEq, Repr

/-- `sales_orders.status`.  The column has no `CHECK`, so an administrator's
edit can store any other text. -/
inductive SalesOrderStatus
  | soOpen
  | soPicked
  | soPacked
  | soShipped
  | soCancelled
  | soFraudReview
  | soRefunded
  | soWaitingStock
  | other (text : String)
  deriving DecidableEq, Repr

def SalesOrderStatus.text : SalesOrderStatus → String
  | soOpen => "OPEN"
  | soPicked => "PICKED"
  | soPacked => "PACKED"
  | soShipped => "SHIPPED"
  | soCancelled => "CANCELLED"
  | soFraudReview => "FRAUD_REVIEW"
  | soRefunded => "REFUNDED"
  | soWaitingStock => "WAITING_STOCK"
  | other text => text

/-- `sales_orders.order_type`. -/
inductive OrderType
  | sale
  | refund
  | backorder
  | replacement
  | exchange
  | return
  deriving DecidableEq, Repr

def OrderType.text : OrderType → String
  | sale => "sale"
  | refund => "refund"
  | backorder => "backorder"
  | replacement => "replacement"
  | exchange => "exchange"
  | .return => "return"

/-- `sales_orders.order_source`. -/
inductive OrderSource
  | web
  | pos
  | reference
  deriving DecidableEq, Repr

/-- Every order type may be fulfilled except a return, which is inbound. -/
def orderTypeAllowsFulfillmentOps (orderType : OrderType) : Bool := orderType ≠ .return

/-- `sales_order_lines.status`: `PENDING`, or the order status the packing and
shipping steps copy onto the line. -/
inductive LineStatus
  | pending
  | ofOrder (status : SalesOrderStatus)
  deriving DecidableEq, Repr

/-- `pick_batches.status`. -/
inductive BatchStatus
  | batchOpen
  | batchInProgress
  | batchCompleted
  | batchCancelled
  deriving DecidableEq, Repr

/-- `status IN ('OPEN', 'IN_PROGRESS')`. -/
def BatchStatus.active : BatchStatus → Bool
  | batchOpen => true
  | batchInProgress => true
  | batchCompleted => false
  | batchCancelled => false

/-- `pick_tasks.status`. -/
inductive TaskStatus
  | taskPending
  | taskPicked
  | taskShort
  | taskSkipped
  | taskReleased
  deriving DecidableEq, Repr

def TaskStatus.text : TaskStatus → String
  | taskPending => "PENDING"
  | taskPicked => "PICKED"
  | taskShort => "SHORT"
  | taskSkipped => "SKIPPED"
  | taskReleased => "RELEASED"

/-- `transfer_orders.status`. -/
inductive TransferStatus
  | toOpen
  | toPartiallyPicked
  | toAwaitingApproval
  | toApproved
  | toClosed
  | toCancelled
  deriving DecidableEq, Repr

def TransferStatus.text : TransferStatus → String
  | toOpen => "OPEN"
  | toPartiallyPicked => "PARTIALLY_PICKED"
  | toAwaitingApproval => "AWAITING_APPROVAL"
  | toApproved => "APPROVED"
  | toClosed => "CLOSED"
  | toCancelled => "CANCELLED"

/-- `transfer_order_lines.status`. -/
inductive TransferLineStatus
  | toLinePending
  | toLinePartiallyPicked
  | toLinePicked
  | toLineApproved
  | toLineShortClosed
  deriving DecidableEq, Repr

def TransferLineStatus.text : TransferLineStatus → String
  | toLinePending => "PENDING"
  | toLinePartiallyPicked => "PARTIALLY_PICKED"
  | toLinePicked => "PICKED"
  | toLineApproved => "APPROVED"
  | toLineShortClosed => "SHORT_CLOSED"

/-- `transfer_order_approvals.status`. -/
inductive ApprovalStatus
  | approvalPending
  | approvalApproved
  | approvalRejected
  deriving DecidableEq, Repr

def ApprovalStatus.text : ApprovalStatus → String
  | .approvalPending => "PENDING"
  | .approvalApproved => "APPROVED"
  | .approvalRejected => "REJECTED"

/-- `purchase_orders.status`. -/
inductive PurchaseOrderStatus
  | poOpen
  | poPartial
  | poReceived
  | poClosed
  | poArchived
  deriving DecidableEq, Repr

def PurchaseOrderStatus.text : PurchaseOrderStatus → String
  | poOpen => "OPEN"
  | poPartial => "PARTIAL"
  | poReceived => "RECEIVED"
  | poClosed => "CLOSED"
  | poArchived => "ARCHIVED"

/-- `purchase_order_lines.status`. -/
inductive PurchaseOrderLineStatus
  | polPending
  | polPartial
  | polReceived
  deriving DecidableEq, Repr

/-- `payment_summary.method`. -/
inductive PaymentMethod
  | card
  | cash
  | split
  deriving DecidableEq, Repr

def PaymentMethod.text : PaymentMethod → String
  | card => "card"
  | cash => "cash"
  | split => "split"

/-- `integration_events.event_type`, as far as the modelled services emit. -/
inductive EventType
  | pickConfirmed
  | packConfirmed
  | shipConfirmed
  | shipVoided
  | salesOrderEditCompleted
  | backorderOpened
  | backorderCancelled
  | inventoryTransferCompleted
  | backorderFulfillable
  | receiptCompleted
  | receiptCancelled
  | returnReceived
  | inventoryAdjustedCompleted
  | cycleCountAdjusted
  deriving DecidableEq, Repr

/-! ## Rows -/

structure Item where
  itemId : ℕ
  sku : String
  itemName : String
  upc : Option String := none
  barcodeAliases : List String := []
  isActive : Bool := true
  deriving DecidableEq, Repr

structure Warehouse where
  warehouseId : ℕ
  warehouseCode : String
  isActive : Bool := true
  deriving DecidableEq, Repr

structure Bin where
  binId : ℕ
  warehouseId : ℕ
  binCode : String
  binType : BinType
  pickSequence : ℤ := 0
  isActive : Bool := true
  deriving DecidableEq, Repr

/-- One lot of an item in a bin.  `UNIQUE(item_id, bin_id, lot_number)` treats
missing lot numbers as distinct. -/
structure InventoryRow where
  inventoryId : ℕ
  itemId : ℕ
  binId : ℕ
  warehouseId : ℕ
  quantityOnHand : ℤ := 0
  quantityAllocated : ℤ := 0
  lotNumber : Option String := none
  updatedAt : ℕ
  deriving DecidableEq, Repr

/-- `sales_orders.cached_response_body`: what the point of sale was answered. -/
inductive PosResponse
  | checkout (soNumber : String)
  | refund (refundSoNumber originalSoNumber : String) (fullyRefunded : Bool)
  deriving DecidableEq, Repr

structure SalesOrder where
  soId : ℕ
  soNumber : String
  soBarcode : Option String := none
  status : SalesOrderStatus
  warehouseId : ℕ
  orderType : OrderType := .sale
  parentSoId : Option ℕ := none
  cancellationReason : Option String := none
  shipMethod : Option String := none
  carrier : Option String := none
  trackingNumber : Option String := none
  shippedAt : Option ℕ := none
  createdAt : ℕ
  backorderOpenedAt : Option ℕ := none
  orderSource : OrderSource := .web
  refundedAt : Option ℕ := none
  refundSoId : Option ℕ := none
  voidedAt : Option ℕ := none
  idempotencyKey : Option String := none
  idempotencyBodyHash : Option String := none
  cachedResponseBody : Option PosResponse := none
  deriving DecidableEq, Repr

structure SalesOrderLine where
  soLineId : ℕ
  soId : ℕ
  itemId : ℕ
  quantityOrdered : ℤ
  quantityAllocated : ℤ := 0
  quantityPicked : ℤ := 0
  quantityPacked : ℤ := 0
  quantityShipped : ℤ := 0
  quantityReceived : ℤ := 0
  lineNumber : ℤ
  status : LineStatus := .pending
  deriving DecidableEq, Repr

structure PickBatch where
  batchId : ℕ
  warehouseId : ℕ
  status : BatchStatus
  assignedTo : String
  totalOrders : ℕ
  totalItems : ℤ
  deriving DecidableEq, Repr

structure PickBatchOrder where
  batchOrderId : ℕ
  batchId : ℕ
  soId : ℕ
  toteNumber : Option String := none
  deriving DecidableEq, Repr

/-- Whose demand a task serves: `pick_tasks_target_xor` demands exactly one of
the two pairs of columns.  Deleting a sales-order line clears the line column
of its tasks. -/
inductive TaskTarget
  | salesOrder (soId : ℕ) (soLineId : Option ℕ)
  | transferOrder (toId toLineId : ℕ)
  deriving DecidableEq, Repr

structure PickTask where
  pickTaskId : ℕ
  batchId : ℕ
  target : TaskTarget
  itemId : ℕ
  binId : ℕ
  quantityToPick : ℤ
  quantityPicked : ℤ := 0
  pickSequence : ℤ
  toteNumber : Option String := none
  status : TaskStatus := .taskPending
  deriving DecidableEq, Repr

/-- `pick_tasks.so_id`. -/
def PickTask.soId? (task : PickTask) : Option ℕ :=
  match task.target with
  | .salesOrder soId _ => some soId
  | .transferOrder _ _ => none

/-- `pick_tasks.so_line_id`. -/
def PickTask.soLineId? (task : PickTask) : Option ℕ :=
  match task.target with
  | .salesOrder _ soLineId => soLineId
  | .transferOrder _ _ => none

/-- `pick_tasks.to_id`. -/
def PickTask.toId? (task : PickTask) : Option ℕ :=
  match task.target with
  | .salesOrder _ _ => none
  | .transferOrder toId _ => some toId

/-- `pick_tasks.to_line_id`. -/
def PickTask.toLineId? (task : PickTask) : Option ℕ :=
  match task.target with
  | .salesOrder _ _ => none
  | .transferOrder _ toLineId => some toLineId

/-- One contributor's share of a consolidated wave task. -/
structure WavePickBreakdown where
  id : ℕ
  pickTaskId : ℕ
  soId : ℕ
  soLineId : Option ℕ
  quantity : ℤ
  quantityPicked : ℤ := 0
  shortQuantity : ℤ := 0
  deriving DecidableEq, Repr

structure ItemFulfillment where
  fulfillmentId : ℕ
  soId : ℕ
  warehouseId : ℕ
  trackingNumber : Option String := none
  carrier : Option String := none
  shipMethod : Option String := none
  preShipStatus : Option SalesOrderStatus := none
  shippedAt : ℕ
  voided : Bool := false
  deriving DecidableEq, Repr

structure ItemFulfillmentLine where
  fulfillmentLineId : ℕ
  fulfillmentId : ℕ
  soLineId : ℕ
  itemId : ℕ
  quantityShipped : ℤ
  binId : ℕ
  deriving DecidableEq, Repr

inductive AdjustmentStatus
  | adjPending
  | adjApproved
  | adjRejected
  deriving DecidableEq, Repr

/-- A stock correction; that of a cycle count waits for its review. -/
structure InventoryAdjustment where
  adjustmentId : ℕ
  itemId : ℕ
  binId : ℕ
  warehouseId : ℕ
  quantityChange : ℤ
  reasonDetail : String
  status : AdjustmentStatus
  adjustedBy : String
  cycleCountId : Option ℕ := none
  deriving DecidableEq, Repr

inductive TransferType
  | move
  | putaway
  | interWarehouse
  deriving DecidableEq, Repr

structure BinTransfer where
  transferId : ℕ
  itemId : ℕ
  fromBinId : ℕ
  toBinId : ℕ
  warehouseId : ℕ
  quantity : ℤ
  transferType : TransferType
  lotNumber : Option String := none
  reason : Option String := none
  transferredBy : String
  deriving DecidableEq, Repr

structure TransferOrder where
  toId : ℕ
  toNumber : String
  sourceWarehouseId : ℕ
  destinationWarehouseId : ℕ
  status : TransferStatus := .toOpen
  deriving DecidableEq, Repr

structure TransferOrderLine where
  toLineId : ℕ
  toId : ℕ
  itemId : ℕ
  lineNumber : ℕ
  requestedQty : ℤ
  committedQty : ℤ := 0
  pickedQty : ℤ := 0
  approvedQty : ℤ := 0
  status : TransferLineStatus := .toLinePending
  deriving DecidableEq, Repr

/-- `lines_snapshot` lists a transfer line with the units picked since the last
approval. -/
structure TransferOrderApproval where
  toApprovalId : ℕ
  toId : ℕ
  submittedBy : String
  approvedBy : Option String := none
  linesSnapshot : List (ℕ × ℕ × ℤ)
  status : ApprovalStatus := .approvalPending
  deriving DecidableEq, Repr

structure PurchaseOrder where
  poId : ℕ
  status : PurchaseOrderStatus := .poOpen
  warehouseId : ℕ
  deriving DecidableEq, Repr

structure PurchaseOrderLine where
  poLineId : ℕ
  poId : ℕ
  itemId : ℕ
  quantityOrdered : ℤ
  quantityReceived : ℤ := 0
  lineNumber : ℤ
  status : PurchaseOrderLineStatus := .polPending
  deriving DecidableEq, Repr

/-- Goods taken in.  A receipt of a purchase order leaves the sales-order columns
`NULL`, and a return receipt the purchase-order columns; no `CHECK` says so. -/
structure ItemReceipt where
  receiptId : ℕ
  poId : Option ℕ := none
  poLineId : Option ℕ := none
  soId : Option ℕ := none
  soLineId : Option ℕ := none
  itemId : ℕ
  quantityReceived : ℤ
  binId : ℕ
  warehouseId : ℕ
  externalId : String
  deriving DecidableEq, Repr

/-- `audit_log.action_type`, of the entries some modelled statement reads. -/
inductive AuditAction
  | posCheckout
  | posRefund
  deriving DecidableEq, Repr

/-- A line in `details.lines`: where its units left the shelf or went back to, by
the codes of the warehouse and the bin. -/
structure PosLine where
  sku : String
  warehouseCode : String
  binCode : String
  quantity : ℤ
  deriving DecidableEq, Repr

/-- The audit entry of a point-of-sale order. -/
structure AuditEntry where
  logId : ℕ
  actionType : AuditAction
  entityId : ℕ
  paymentMethod : PaymentMethod
  lines : List PosLine
  deriving DecidableEq, Repr

structure IntegrationEvent where
  eventId : ℕ
  eventType : EventType
  aggregateId : ℕ
  warehouseId : ℕ
  sourceTxnId : ℕ
  deriving DecidableEq, Repr

/-! ## Database -/

/-- The tables and the application settings the requests depend on. -/
structure Db where
  items : Table Item Item.itemId := .empty
  warehouses : Table Warehouse Warehouse.warehouseId := .empty
  bins : Table Bin Bin.binId := .empty
  inventory : Table InventoryRow InventoryRow.inventoryId := .empty
  salesOrders : Table SalesOrder SalesOrder.soId := .empty
  salesOrderLines : Table SalesOrderLine SalesOrderLine.soLineId := .empty
  pickBatches : Table PickBatch PickBatch.batchId := .empty
  pickBatchOrders : Table PickBatchOrder PickBatchOrder.batchOrderId := .empty
  pickTasks : Table PickTask PickTask.pickTaskId := .empty
  wavePickBreakdown : Table WavePickBreakdown WavePickBreakdown.id := .empty
  itemFulfillments : Table ItemFulfillment ItemFulfillment.fulfillmentId := .empty
  itemFulfillmentLines :
    Table ItemFulfillmentLine ItemFulfillmentLine.fulfillmentLineId := .empty
  inventoryAdjustments :
    Table InventoryAdjustment InventoryAdjustment.adjustmentId := .empty
  binTransfers : Table BinTransfer BinTransfer.transferId := .empty
  transferOrders : Table TransferOrder TransferOrder.toId := .empty
  transferOrderLines : Table TransferOrderLine TransferOrderLine.toLineId := .empty
  transferOrderApprovals :
    Table TransferOrderApproval TransferOrderApproval.toApprovalId := .empty
  purchaseOrders : Table PurchaseOrder PurchaseOrder.poId := .empty
  purchaseOrderLines : Table PurchaseOrderLine PurchaseOrderLine.poLineId := .empty
  itemReceipts : Table ItemReceipt ItemReceipt.receiptId := .empty
  auditLog : Table AuditEntry AuditEntry.logId := .empty
  integrationEvents : Table IntegrationEvent IntegrationEvent.eventId := .empty
  defaultReceivingBin : Option ℕ := none
  requirePackingBeforeShipping : Option String := none
  transferOrderBlockSelfApproval : Option String := none
  allowOverReceipt : Option String := none
  requireCountApprovalSeparation : Option String := none

/-- A database without any row. -/
def Db.empty : Db := {}

/-- What a request carries besides its body: the operator and its rights, the
warehouses a user without administrator rights or a token may act in, the
transaction's clock (`NOW()` is constant within a transaction) and
`g.source_txn_id`. -/
structure RequestContext where
  username : String
  isAdmin : Bool
  hasSoFullEdit : Bool
  warehouseIds : List ℕ
  now : ℕ
  sourceTxnId : ℕ
  deriving DecidableEq, Repr

/-! ## Refusals -/

/-- A line the planner could not cover, as the picker's shortfall screen shows
it. -/
structure UncoveredLine where
  sku : Option String
  itemName : Option String
  ordered : ℤ
  available : ℤ
  deriving DecidableEq, Repr

structure UncoveredOrder where
  soId : ℕ
  soNumber : String
  lines : List UncoveredLine
  deriving DecidableEq, Repr

/-- A record of a transfer-order import that does not pass its checks. -/
inductive ImportRowError
  | validationError (rowIndex : ℕ)
  | unknownSku (rowIndex : ℕ) (sku : String)
  deriving DecidableEq, Repr

/-- The exceptions and error responses a request can end in.  Each of them
rolls the transaction back.  The further fields of an error body are kept as texts. -/
inductive ServiceError
  | valueError (message : String)
  | barcodeError (message : String)
  | insufficientCoverage (unpickable : List UncoveredOrder)
  | alreadyInBatch (soNumber : String) (batchId : ℕ)
  | overPickAttempt (toLineId : ℕ) (delta : ℤ)
  | integrityError (relation : String)
  | cancelNotAllowed (message currentStatus : String)
  | revertNotAllowed (message kind : String)
  | adminPickError (message kind : String)
  | adminShipError (message kind : String)
  | unreceiveError (message kind : String)
  | returnVoidNotAllowed (message reason : String)
  | posError (error message : String) (code : ℕ)
  | statusConflict (error currentStatus detail : String)
  | rowErrors (rows : List ImportRowError)
  | httpError (code : ℕ) (message : String)
  | jsonError (code : ℕ) (error : String) (fields : List (String × Option String))
  | runtimeError (message : String)
  deriving DecidableEq, Repr

/-- A list of identifiers as Python prints it. -/
def idList (ids : List ℕ) : String := "[" ++ ", ".intercalate (ids.map toString) ++ "]"

end SentryWms

import SentryWms.Receiving.Receipts

/-!
# Return orders

A return order is a child of the order it takes goods back for.  Creating it moves
nothing; goods are received against it, one item into one bin, and a return order
nothing was received on can be voided.
-/

namespace SentryWms.SalesOrders

open Relational Inventory Receiving

/-! ## Child orders -/

/-- `ORDER_TYPE_SO_SUFFIX`. -/
def soSuffix? : OrderType → Option String
  | .replacement => some "REPLACEMENT"
  | .exchange => some "EXCHANGE"
  | .return => some "RMA"
  | .refund => some "REFUND"
  | .sale => none
  | .backorder => none

/-- The children of an order that have a type. -/
def childrenOf (db : Db) (parentSoId : ℕ) (orderType : OrderType) : List SalesOrder :=
  db.salesOrders.select fun order =>
    order.parentSoId = some parentSoId ∧ order.orderType = orderType

/-- `mint_child_so_number`. -/
def mintChildSoNumber (db : Db) (parentSoId : ℕ) (parentSoNumber : String)
    (orderType : OrderType) : Except ServiceError String := do
  let suffix ← orThrow (soSuffix? orderType)
    (.valueError s!"order_type '{orderType.text}' has no so_number suffix")
  let existing := (childrenOf db parentSoId orderType).length
  pure (if existing = 0 then s!"{parentSoNumber}-{suffix}"
    else s!"{parentSoNumber}-{suffix}-{existing + 1}")

/-! ## Creating a return -/

/-- A line of the return: the item and how many units are expected back. -/
structure ReturnLine where
  itemId : ℕ
  quantity : ℤ
  quantity_pos : 0 < quantity
  quantity_le : quantity ≤ 1000000

/-- `INSERT INTO sales_orders` for a return. -/
def insertReturn (now : ℕ) (soNumber : String) (original : SalesOrder) (db : Db) :
    Except ServiceError Db := do
  require (∀ order ∈ db.salesOrders.rows, order.soNumber ≠ soNumber)
    (.integrityError "sales_orders_so_number_key")
  pure
    { db with
      salesOrders := db.salesOrders.insert fun soId =>
        { soId := soId
          soNumber := soNumber
          soBarcode := some soNumber
          status := .soOpen
          warehouseId := original.warehouseId
          orderType := .return
          parentSoId := some original.soId
          createdAt := now
          orderSource := original.orderSource } }

/-- `INSERT INTO sales_order_lines` for a return line. -/
def insertReturnLine (soId : ℕ) (db : Db) (numbered : ReturnLine × ℕ) : Db :=
  { db with
    salesOrderLines := db.salesOrderLines.insert fun soLineId =>
      { soLineId := soLineId
        soId := soId
        itemId := numbered.1.itemId
        quantityOrdered := numbered.1.quantity
        lineNumber := numbered.2
        status := .ofOrder .soOpen } }

structure CreatedReturn where
  soId : ℕ
  soNumber : String
  deriving DecidableEq, Repr

/-- `create_rma`.  An item that does not exist fails the foreign key of its line. -/
def createRma (now : ℕ) (db : Db) (originalSoId : ℕ) (lines : List ReturnLine) :
    Except ServiceError (Db × CreatedReturn) := do
  let original ← orThrow (db.salesOrders.find? originalSoId)
    (.valueError s!"original SO {originalSoId} not found")
  let soNumber ← mintChildSoNumber db originalSoId original.soNumber .return
  let opened ← insertReturn now soNumber original db
  require (∀ line ∈ lines, (db.items.find? line.itemId).isSome)
    (.integrityError "sales_order_lines_item_id_fkey")
  pure (run (insertReturnLine db.salesOrders.nextKey) opened (lines.zipIdx 1),
    { soId := db.salesOrders.nextKey
      soNumber := soNumber })

/-- The body of `create_rma_route`, with its order. -/
structure CreateRmaRequest where
  soId : ℕ
  lines : List ReturnLine
  lines_ne_nil : lines ≠ []

/-! ## Receiving a return -/

/-- The request, with the `uuid4` the receipt is stored under when it brings no key
of its own.  A key is a UUID in its canonical text; the column refuses any other. -/
structure ReceiveRmaRequest where
  rmaSoId : ℕ
  itemId : ℕ
  quantity : ℤ
  warehouseId : ℕ
  binId : ℕ
  idempotencyKey : Option String
  externalId : String
  quantity_pos : 0 < quantity
  quantity_le : quantity ≤ 1000000

/-- `if idempotency_key:`. -/
def ReceiveRmaRequest.key? (request : ReceiveRmaRequest) : Option String :=
  request.idempotencyKey.filter fun key => key ≠ ""

structure ReceivedReturn where
  receiptId : ℕ
  status : SalesOrderStatus
  replayed : Bool
  deriving DecidableEq, Repr

/-- `RMA_STATUS_PARTIALLY_RECEIVED`. -/
def rmaStatusPartiallyReceived : SalesOrderStatus := .other "PARTIALLY_RECEIVED"

/-- `RMA_STATUS_RECEIVED`. -/
def rmaStatusReceived : SalesOrderStatus := .other "RECEIVED"

/-- The line of the return for the item. -/
def returnLine? (db : Db) (soId itemId : ℕ) : Option SalesOrderLine :=
  db.salesOrderLines.rows.find? fun line => line.soId = soId ∧ line.itemId = itemId

/-- `quantity_received = quantity_received + :q`. -/
def receiveUnits (qty : ℤ) (line : SalesOrderLine) : SalesOrderLine :=
  { line with quantityReceived := line.quantityReceived + qty }

/-- What the receipt of a return books: the receipt, the stock, the line's counter
and the status of the return. -/
def bookReturn (ctx : RequestContext) (db : Db) (request : ReceiveRmaRequest)
    (line : SalesOrderLine) : Except ServiceError (Db × ReceivedReturn) := do
  let receiptId := db.itemReceipts.nextKey
  let booked ← insertReceipt
    { receiptId := receiptId
      soId := some request.rmaSoId
      soLineId := some line.soLineId
      itemId := request.itemId
      quantityReceived := request.quantity
      binId := request.binId
      warehouseId := request.warehouseId
      externalId := request.key?.getD request.externalId } db
  let advanced := updateLine (some line.soLineId) (receiveUnits request.quantity)
    (addInventory ctx.now request.itemId request.binId request.warehouseId
      request.quantity none booked)
  let status :=
    if (linesOf advanced request.rmaSoId).any fun line =>
        line.quantityReceived < line.quantityOrdered
    then rmaStatusPartiallyReceived else rmaStatusReceived
  pure (emitEvent ctx .returnReceived receiptId request.warehouseId
    (setOrderStatus request.rmaSoId status advanced),
    { receiptId := receiptId
      status := status
      replayed := false })

/-- `receive_rma`. -/
def receiveRma (ctx : RequestContext) (db : Db) (request : ReceiveRmaRequest) :
    Except ServiceError (Db × ReceivedReturn) := do
  let rma ← orThrow
    ((db.salesOrders.find? request.rmaSoId).filter fun order => order.orderType = .return)
    (.valueError s!"RMA {request.rmaSoId} not found or not a return SO")
  let line ← orThrow (returnLine? db request.rmaSoId request.itemId)
    (.valueError s!"item {request.itemId} is not on RMA {request.rmaSoId}")
  match db.itemReceipts.rows.find? fun receipt =>
      some receipt.externalId = request.key? with
  | some prior =>
      pure (db,
        { receiptId := prior.receiptId
          status := rma.status
          replayed := true })
  | none =>
      let remaining := line.quantityOrdered - line.quantityReceived
      require (request.quantity ≤ remaining)
        (.valueError
          s!"cannot receive {request.quantity} of item {request.itemId}: only {remaining} of {line.quantityOrdered} remain on RMA {request.rmaSoId}")
      let bin ← orThrow (db.bins.find? request.binId)
        (.valueError s!"bin {request.binId} not found")
      require (bin.warehouseId = request.warehouseId)
        (.valueError
          s!"bin {request.binId} belongs to warehouse {bin.warehouseId}, not {request.warehouseId}")
      bookReturn ctx db request line

end SentryWms.SalesOrders

import SentryWms.Relational.Totals
import SentryWms.SalesOrders.Returns

/-!
# Point-of-sale checkout

A checkout rings up a counter sale, a phone order or a backorder.  A counter sale
takes its units from the bins the register names and is shipped at once; a phone
order only reserves them; a backorder has no stock.  A replacement or an exchange is
a child of an earlier order, and an exchange opens the return order its returned
items come back on.
-/

namespace SentryWms.Pos

open Relational Inventory SalesOrders

/-! ## Bodies -/

/-- The quantity bounds of `CheckoutLine` and `RefundLine`. -/
def ValidLine (line : PosLine) : Prop := 0 < line.quantity ∧ line.quantity ≤ 10000

instance (line : PosLine) : Decidable (ValidLine line) := inferInstanceAs (Decidable (_ ∧ _))

structure ReturnedItem where
  sku : String
  quantity : ℤ
  quantity_pos : 0 < quantity
  quantity_le : quantity ≤ 10000

/-- The body of a checkout, with its `canonical_body_sha256`.  A missing
`order_type` is `sale`. -/
structure CheckoutBody where
  idempotencyKey : String
  bodyHash : String
  completedAt : ℕ
  paymentMethod : PaymentMethod
  lines : List PosLine
  isPhoneOrder : Bool
  shipMethod : Option String
  orderType : OrderType
  parentSoNumber : Option String
  returnedItems : List ReturnedItem
  backorder : Bool
  lines_ne_nil : lines ≠ []
  lines_valid : ∀ line ∈ lines, ValidLine line
  lines_located : backorder = false → ∀ line ∈ lines, line.warehouseCode ≠ "" ∧ line.binCode ≠ ""
  orderType_allowed :
    orderType = .sale ∨ orderType = .replacement ∨ orderType = .exchange

/-! ## Resolving the codes -/

def itemBySku? (db : Db) (sku : String) : Option Item :=
  db.items.rows.find? fun item => item.sku = sku

def warehouseByCode? (db : Db) (code : String) : Option Warehouse :=
  db.warehouses.rows.find? fun warehouse => warehouse.warehouseCode = code

def binByCode? (db : Db) (warehouseId : ℕ) (code : String) : Option Bin :=
  db.bins.rows.find? fun bin => bin.binCode = code ∧ bin.warehouseId = warehouseId

/-- A line with the rows its codes name. -/
structure Located where
  idx : ℕ
  line : PosLine
  itemId : ℕ
  warehouseId : ℕ
  binId : ℕ
  deriving DecidableEq, Repr

namespace Located

def quantity (located : Located) : ℤ := located.line.quantity

def place (located : Located) : Place where
  itemId := located.itemId
  binId := located.binId
  warehouseId := located.warehouseId

end Located

/-- The bulk key resolve, of one line. -/
def locate? (db : Db) (numbered : PosLine × ℕ) : Option Located := do
  let item ← itemBySku? db numbered.1.sku
  let warehouse ← warehouseByCode? db numbered.1.warehouseCode
  let bin ← binByCode? db warehouse.warehouseId numbered.1.binCode
  pure
    { idx := numbered.2
      line := numbered.1
      itemId := item.itemId
      warehouseId := warehouse.warehouseId
      binId := bin.binId }

/-- The lines that resolve. -/
def locate (db : Db) (lines : List PosLine) : List Located := lines.zipIdx.filterMap (locate? db)

/-- Every line resolves. -/
def allLocated (db : Db) (lines : List PosLine) : Bool :=
  lines.zipIdx.all fun numbered => (locate? db numbered).isSome

/-- Units of the lines at a set of places. -/
def unitsOver (places : Place → Bool) (lines : List Located) : ℤ :=
  totalOver Located.place Located.quantity places lines

/-- Units of the lines of one item. -/
def unitsOf (lines : List Located) (itemId : ℕ) : ℤ := unitsOver (ofItem itemId) lines

/-- Units of the lines at one item, warehouse and bin. -/
def unitsAt (lines : List Located) (place : Place) : ℤ :=
  unitsOver (fun other => other = place) lines

/-- `sorted(..., key=lambda r: (r.item_id, r.bin_id))`. -/
def lockOrder (lines : List Located) : List Located :=
  orderBy
    (fun left right =>
      left.itemId < right.itemId ∨ (left.itemId = right.itemId ∧ left.binId ≤ right.binId)) lines

/-- The row a line takes its units from or gives them back to. -/
def lineRow? (db : Db) (line : Located) : Option InventoryRow :=
  (orderBy (fun left right => left.inventoryId ≤ right.inventoryId)
    (db.inventory.select fun row => row.place = line.place)).head?

/-! ## Idempotency -/

def lockContention : ServiceError :=
  .posError "lock_contention" "database is busy; retry shortly" 503

/-- What an earlier request under the key was answered.  Every committed order with
a key has its response cached. -/
def replay? (db : Db) (message idempotencyKey bodyHash : String) :
    Option (Except ServiceError PosResponse) :=
  (db.salesOrders.rows.find? fun order =>
    order.idempotencyKey = some idempotencyKey).map fun order =>
      if order.idempotencyBodyHash = some bodyHash then
        match order.cachedResponseBody with
        | some response => .ok response
        | none => .error lockContention
      else .error (.posError "idempotency_key_reused_with_different_body" message 409)

/-- `INSERT INTO sales_orders`; `so_number` is unique. -/
def insertPosOrder (order : SalesOrder) (db : Db) : Except ServiceError Db := do
  require (∀ stored ∈ db.salesOrders.rows, stored.soNumber ≠ order.soNumber)
    (.integrityError "sales_orders_so_number_key")
  pure
    { db with
      salesOrders := db.salesOrders.insert fun soId => { order with soId := soId } }

/-- `UPDATE sales_orders SET cached_response_body = :body`. -/
def cacheResponse (soId : ℕ) (response : PosResponse) (db : Db) : Db :=
  { db with
    salesOrders := db.salesOrders.updateKey soId fun order =>
      { order with cachedResponseBody := some response } }

/-- `write_audit_log` with the lines of a sale or a refund. -/
def writePosAudit (action : AuditAction) (soId : ℕ) (method : PaymentMethod)
    (lines : List PosLine) (db : Db) : Db :=
  { db with
    auditLog := db.auditLog.insert fun logId =>
      { logId := logId
        actionType := action
        entityId := soId
        paymentMethod := method
        lines := lines } }

/-- `INSERT INTO sales_order_lines`: `moved` is stored as picked, packed and
shipped. -/
def insertPosLine (soId itemId : ℕ) (ordered allocated moved : ℤ) (lineNumber : ℕ)
    (status : LineStatus) (db : Db) : Db :=
  { db with
    salesOrderLines := db.salesOrderLines.insert fun soLineId =>
      { soLineId := soLineId
        soId := soId
        itemId := itemId
        quantityOrdered := ordered
        quantityAllocated := allocated
        quantityPicked := moved
        quantityPacked := moved
        quantityShipped := moved
        lineNumber := lineNumber
        status := status } }

/-! ## Checkout -/

/-- The warehouses of the lines the token may not sell from; a code that does not
resolve is left to the key resolve. -/
def inTokenScope (ctx : RequestContext) (db : Db) (line : PosLine) : Bool :=
  (warehouseByCode? db line.warehouseCode).all fun warehouse =>
    warehouse.warehouseId ∈ ctx.warehouseIds

/-- A line's item is known and active. -/
def sellable (db : Db) (line : PosLine) : Bool := (itemBySku? db line.sku).any Item.isActive

/-- The order a replacement or an exchange is a child of, and the number of the new
order. -/
def checkoutNumber (ctx : RequestContext) (db : Db) (body : CheckoutBody) :
    Except ServiceError (Option ℕ × String) :=
  if body.orderType = .sale then
    pure (none, s!"POS-{db.salesOrders.nextKey}")
  else do
    let parentSoNumber ← orThrow (body.parentSoNumber.filter fun text => text ≠ "")
      (.posError "parent_so_required" "replacement / exchange requires parent_so_number" 422)
    let parent ← orThrow
      (db.salesOrders.rows.find? fun order =>
        order.soNumber = parentSoNumber ∧ order.warehouseId ∈ ctx.warehouseIds)
      (.posError "parent_so_not_found" "no order matches parent_so_number" 404)
    let soNumber ← mintChildSoNumber db parent.soId parent.soNumber body.orderType
    pure (some parent.soId, soNumber)

/-- The warehouse a backorder is assigned to: the one with the configured code, or
the only one. -/
def backorderWarehouse? (db : Db) (code : String) : Option ℕ :=
  if code = "" then
    match db.warehouses.rows with
    | [only] => some only.warehouseId
    | _ => none
  else (warehouseByCode? db code).map Warehouse.warehouseId

def headerWarehouse (backorderWarehouseCode : String) (db : Db)
    (body : CheckoutBody) : Except ServiceError ℕ :=
  if body.backorder then
    orThrow (backorderWarehouse? db backorderWarehouseCode)
      (.posError "backorder_warehouse_unavailable"
        (if backorderWarehouseCode = "" then
          "set BACKORDER_WAREHOUSE_CODE to the warehouse that receives restock; it cannot be inferred when the deployment has more than one warehouse"
        else s!"no warehouse with code '{backorderWarehouseCode}' for backorder fulfillment")
        422)
  else
    orThrow ((locate db body.lines).head?.map Located.warehouseId)
      (.posError "fulfillment_failed" "could not resolve sku / warehouse / bin for line" 422)

def checkoutStatus (body : CheckoutBody) : SalesOrderStatus :=
  if body.backorder then .soWaitingStock
  else if body.isPhoneOrder then .soOpen
  else .soShipped

/-- The header of the new order. -/
def checkoutOrder (ctx : RequestContext) (body : CheckoutBody) (soNumber : String)
    (warehouseId : ℕ) (parentSoId : Option ℕ) : SalesOrder where
  soId := 0
  soNumber := soNumber
  soBarcode := some soNumber
  status := checkoutStatus body
  warehouseId := warehouseId
  orderType := body.orderType
  parentSoId := parentSoId
  cancellationReason := none
  shipMethod := if body.isPhoneOrder then body.shipMethod else none
  carrier := none
  trackingNumber := none
  shippedAt :=
    if body.backorder ∨ body.isPhoneOrder then none else some body.completedAt
  createdAt := ctx.now
  backorderOpenedAt := if body.backorder then some ctx.now else none
  orderSource := .pos
  refundedAt := none
  refundSoId := none
  voidedAt := none
  idempotencyKey := some body.idempotencyKey
  idempotencyBodyHash := some body.bodyHash
  cachedResponseBody := none

/-- One line of a backorder: ordered, nothing else. -/
def orderLine (soId : ℕ) (db : Db) (numbered : PosLine × ℕ) : Db :=
  match itemBySku? db numbered.1.sku with
  | some item =>
      insertPosLine soId item.itemId numbered.1.quantity 0 0 (numbered.2 + 1) .pending db
  | none => db

/-- The turn of the stock loop for one line. -/
def sellLine (ctx : RequestContext) (isPhoneOrder : Bool) (soId : ℕ) (db : Db)
    (line : Located) : Except ServiceError Db := do
  let row ← orThrow (lineRow? db line)
    (.posError "fulfillment_failed" s!"could not decrement inventory for line {line.idx}" 422)
  require (line.quantity ≤ row.available)
    (.posError "fulfillment_failed" s!"could not decrement inventory for line {line.idx}" 422)
  if isPhoneOrder then
    pure (addAllocated (some ctx.now) line.quantity row.inventoryId
      (insertPosLine soId line.itemId line.quantity line.quantity 0 (line.idx + 1)
        (.ofOrder .soOpen) db))
  else
    pure (addOnHand ctx.now (-line.quantity) row.inventoryId
      (insertPosLine soId line.itemId line.quantity 0 line.quantity (line.idx + 1)
        (.ofOrder .soShipped) db))

def sellLines (ctx : RequestContext) (isPhoneOrder : Bool) (soId : ℕ) :
    List Located → Db → Except ServiceError Db
  | [], db => pure db
  | line :: rest, db => do
      let sold ← sellLine ctx isPhoneOrder soId db line
      sellLines ctx isPhoneOrder soId rest sold

/-- Step 6: the lines of the order, with the stock they move. -/
def applyLines (ctx : RequestContext) (soId warehouseId : ℕ) (body : CheckoutBody)
    (db : Db) : Except ServiceError Db :=
  if body.backorder then
    pure (emitEvent ctx .backorderOpened soId warehouseId
      (run (orderLine soId) db body.lines.zipIdx))
  else sellLines ctx body.isPhoneOrder soId (lockOrder (locate db body.lines)) db

/-- The lines of the return an exchange opens: each returned item is one of the
parent order. -/
def exchangeReturnLines (db : Db) (parentSoId : ℕ) (parentSoNumber : String) :
    List ReturnedItem → Except ServiceError (List ReturnLine)
  | [] => pure []
  | returned :: rest => do
      let item ← orThrow (itemBySku? db returned.sku)
        (.posError "returned_item_unknown_sku"
          s!"returned item SKU '{returned.sku}' does not exist" 422)
      require ((linesOf db parentSoId).any fun line => line.itemId = item.itemId)
        (.posError "returned_item_not_on_parent"
          s!"returned item SKU '{returned.sku}' is not on order {parentSoNumber}" 422)
      let later ← exchangeReturnLines db parentSoId parentSoNumber rest
      pure ({ itemId := item.itemId
              quantity := returned.quantity
              quantity_pos := returned.quantity_pos
              quantity_le := returned.quantity_le.trans (by decide) } :: later)

/-- The return order of an exchange. -/
def openExchangeReturn (ctx : RequestContext) (parentSoId : Option ℕ)
    (body : CheckoutBody) (db : Db) : Except ServiceError Db :=
  match parentSoId with
  | none => pure db
  | some parentSoId =>
      if body.orderType = .exchange ∧ body.returnedItems ≠ [] then do
        let lines ← exchangeReturnLines db parentSoId (body.parentSoNumber.getD "")
          body.returnedItems
        let (created, _) ← createRma ctx.now db parentSoId lines
        pure created
      else pure db

/-- What a checkout has worked out before it inserts its order. -/
structure CheckoutPlan where
  parentSoId : Option ℕ
  soNumber : String
  warehouseId : ℕ
  deriving DecidableEq, Repr

/-- Steps 1 to 4: the checks, the number and the header warehouse. -/
def prepareCheckout (ctx : RequestContext) (backorderWarehouseCode : String) (db : Db)
    (body : CheckoutBody) : Except ServiceError CheckoutPlan := do
  require (∀ line ∈ body.lines, inTokenScope ctx db line)
    (.posError "warehouse_not_in_scope" "token cannot fulfill from this warehouse" 403)
  require ((∀ line ∈ body.lines, sellable db line) ∧
      (body.backorder = false → allLocated db body.lines))
    (.posError "fulfillment_failed"
      (if body.backorder then "could not resolve sku for line"
      else "could not resolve sku / warehouse / bin for line") 422)
  let (parentSoId, soNumber) ← checkoutNumber ctx db body
  let warehouseId ← headerWarehouse backorderWarehouseCode db body
  pure { parentSoId := parentSoId, soNumber := soNumber, warehouseId := warehouseId }

/-- Steps 5 to 9: the order, its lines and stock, and the cached response. -/
def completeCheckout (ctx : RequestContext) (body : CheckoutBody) (plan : CheckoutPlan)
    (db : Db) : Except ServiceError (Db × PosResponse) := do
  let soId := db.salesOrders.nextKey
  let opened ← insertPosOrder
    (checkoutOrder ctx body plan.soNumber plan.warehouseId plan.parentSoId) db
  let applied ← applyLines ctx soId plan.warehouseId body opened
  let returned ← openExchangeReturn ctx plan.parentSoId body applied
  pure (cacheResponse soId (.checkout plan.soNumber)
    (writePosAudit .posCheckout soId body.paymentMethod body.lines returned),
    .checkout plan.soNumber)

/-- A checkout under a key that is not taken. -/
def newCheckout (ctx : RequestContext) (backorderWarehouseCode : String) (db : Db)
    (body : CheckoutBody) : Except ServiceError (Db × PosResponse) := do
  let plan ← prepareCheckout ctx backorderWarehouseCode db body
  completeCheckout ctx body plan db

/-- `checkout`. -/
def checkout (ctx : RequestContext) (backorderWarehouseCode : String) (db : Db)
    (body : CheckoutBody) : Except ServiceError (Db × PosResponse) :=
  match replay? db "idempotency_key matches an existing SO but body differs"
      body.idempotencyKey body.bodyHash with
  | some outcome => outcome.map fun response => (db, response)
  | none => newCheckout ctx backorderWarehouseCode db body

end SentryWms.Pos

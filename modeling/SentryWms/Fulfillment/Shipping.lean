import SentryWms.Fulfillment.Packing

/-!
# Shipping

`record_ship` behind the fulfilment route, `record_admin_ship`, the
administrator's corrective ship, and `record_void_ship`.
-/

namespace SentryWms.Fulfillment

open Relational

/-! ## Shared writes -/

/-- The bin a shipped line was picked from: that of the first picked or shorted
task of the order for the item. -/
def pickedBin? (db : Db) (soId itemId : ℕ) : Option ℕ :=
  (Inventory.orderBy (fun left right => left.pickTaskId ≤ right.pickTaskId)
    (db.pickTasks.select fun task =>
      task.soId? = some soId ∧ task.itemId = itemId ∧
        (task.status = .taskPicked ∨ task.status = .taskShort))).head?.map
    PickTask.binId

/-- `quantity_shipped = quantity_picked, status = 'SHIPPED'`. -/
def shipPicked (line : SalesOrderLine) : SalesOrderLine :=
  { line with
    quantityShipped := line.quantityPicked
    status := .ofOrder .soShipped }

/-- One fulfillment line and the stamp on its order line. -/
def shipLine (fulfillmentId binId : ℕ) (quantity : ℤ) (line : SalesOrderLine)
    (db : Db) : Db :=
  updateLine (some line.soLineId) shipPicked
    { db with
      itemFulfillmentLines := db.itemFulfillmentLines.insert
        fun fulfillmentLineId =>
          { fulfillmentLineId := fulfillmentLineId
            fulfillmentId := fulfillmentId
            soLineId := line.soLineId
            itemId := line.itemId
            quantityShipped := quantity
            binId := binId } }

/-- `INSERT INTO item_fulfillments`, status `SHIPPED`. -/
def openFulfillment (order : SalesOrder) (trackingNumber carrier shipMethod : Option String)
    (preShipStatus : Option SalesOrderStatus) (shippedAt : ℕ) (db : Db) : Db :=
  { db with
    itemFulfillments := db.itemFulfillments.insert fun fulfillmentId =>
      { fulfillmentId := fulfillmentId
        soId := order.soId
        warehouseId := order.warehouseId
        trackingNumber := trackingNumber
        carrier := carrier
        shipMethod := shipMethod
        preShipStatus := preShipStatus
        shippedAt := shippedAt } }

/-! ## Warehouse ship -/

/-- What a ship records besides the order. -/
structure Shipment where
  trackingNumber : Option String
  carrier : Option String
  shipMethod : Option String
  preShipStatus : Option SalesOrderStatus
  shippedAt : ℕ
  deriving DecidableEq, Repr

/-- The lines a ship writes, read before the loop. -/
def shippableLines (db : Db) (soId : ℕ) : List SalesOrderLine :=
  (linesOf db soId).filter fun line => 0 < line.quantityPicked

/-- The header update of a ship. -/
def setShipped (soId : ℕ) (shipment : Shipment) (db : Db) : Db :=
  { db with
    salesOrders := db.salesOrders.updateKey soId fun order =>
      { order with
        status := .soShipped
        shippedAt := some shipment.shippedAt
        carrier := shipment.carrier
        trackingNumber := shipment.trackingNumber
        shipMethod := shipment.shipMethod.or order.shipMethod } }

/-- `record_ship`, on an order whose status the caller has checked. -/
def recordShip (ctx : RequestContext) (db : Db) (order : SalesOrder)
    (shipment : Shipment) : Except ServiceError Db := do
  let short := silentlyShort db order.soId
  require (short = []) (.valueError (underPickedText db "ship" short))
  let fulfillmentId := db.itemFulfillments.nextKey
  let opened := openFulfillment order shipment.trackingNumber shipment.carrier
    shipment.shipMethod shipment.preShipStatus shipment.shippedAt db
  let shipped := run
    (fun db line =>
      shipLine fulfillmentId ((pickedBin? db order.soId line.itemId).getD 1)
        line.quantityPicked line db)
    opened (shippableLines db order.soId)
  pure (emitEvent ctx .shipConfirmed order.soId order.warehouseId
    (setShipped order.soId shipment shipped))

/-- `require_packing_before_shipping`: on unless the setting is `false`. -/
def requirePacking (db : Db) : Bool := db.requirePackingBeforeShipping ≠ some "false"

structure FulfillRequest where
  soId : ℕ
  trackingNumber : Option String
  carrier : Option String
  shipMethod : Option String

/-- The fulfilment route: packed orders, or picked ones when packing is not
required. -/
def fulfill (ctx : RequestContext) (db : Db) (request : FulfillRequest) :
    Except ServiceError (Db × ℕ) := do
  let order ← orThrow (db.salesOrders.find? request.soId) (.httpError 404 "Order not found")
  require (order.status = .soPacked ∨ (order.status = .soPicked ∧ ¬ requirePacking db))
    (.httpError 400
      (if requirePacking db then
        s!"Order must be packed before shipping. Current status: {order.status.text}"
      else
        s!"Order is not ready for shipping. Current status: {order.status.text}"))
  let shipped ← recordShip ctx db order
    { trackingNumber := request.trackingNumber
      carrier := request.carrier
      shipMethod := request.shipMethod
      preShipStatus := none
      shippedAt := ctx.now }
  pure (shipped, db.itemFulfillments.nextKey)

/-! ## Admin ship -/

structure AdminShipRequest where
  soId : ℕ
  acknowledgeShortfall : Bool

/-- `SELECT bin_id FROM bins WHERE warehouse_id = :wh AND is_active ORDER BY
bin_id LIMIT 1`. -/
def fallbackBin? (db : Db) (warehouseId : ℕ) : Option ℕ :=
  (Inventory.orderBy (fun left right => left.binId ≤ right.binId)
    (db.bins.select fun bin => bin.warehouseId = warehouseId ∧ bin.isActive)).head?.map Bin.binId

/-- The lines with picked units that have not shipped, by identifier. -/
def unshippedLines (db : Db) (soId : ℕ) : List SalesOrderLine :=
  Inventory.orderBy (fun left right => left.soLineId ≤ right.soLineId)
    ((linesOf db soId).filter fun line => line.quantityShipped < line.quantityPicked)

/-- The corrective lines; an order without picked tasks uses any active bin of
its warehouse. -/
def adminShipLines (order : SalesOrder) (fulfillmentId : ℕ)
    (fallback : Option ℕ) : List SalesOrderLine → Db → Except ServiceError Db
  | [], db => pure db
  | line :: rest, db => do
      let binId ← orThrow ((pickedBin? db order.soId line.itemId).or fallback)
        (.adminShipError
          s!"warehouse {order.warehouseId} has no active bin to record the fulfillment"
          "no_bin")
      adminShipLines order fulfillmentId fallback rest
        (shipLine fulfillmentId binId (line.quantityPicked - line.quantityShipped) line db)

/-- The header update of a corrective ship keeps an existing ship date. -/
def setAdminShipped (soId shippedAt : ℕ) (db : Db) : Db :=
  { db with
    salesOrders := db.salesOrders.updateKey soId fun order =>
      { order with
        status := .soShipped
        shippedAt := order.shippedAt.or (some shippedAt) } }

/-- `record_admin_ship`.  An acknowledged shortfall skips the under-pick guard,
and an order that already was `SHIPPED` emits nothing. -/
def recordAdminShip (ctx : RequestContext) (db : Db)
    (request : AdminShipRequest) : Except ServiceError (Db × ℕ) := do
  let order ← orThrow (db.salesOrders.find? request.soId)
    (.adminShipError s!"sales order {request.soId} not found" "not_found")
  require (orderTypeAllowsFulfillmentOps order.orderType)
    (.adminShipError "cannot admin-ship a return SO" "not_eligible")
  require (order.status = .soPicked ∨ order.status = .soPacked ∨ order.status = .soShipped)
    (.adminShipError
      s!"SO must be PICKED, PACKED or SHIPPED to admin-ship (current: {order.status.text})"
      "wrong_status")
  require (∀ fulfillment ∈ db.itemFulfillments.rows,
      fulfillment.soId = request.soId → fulfillment.voided)
    (.adminShipError "SO already has a fulfillment; nothing to correct" "already_fulfilled")
  let short := silentlyShort db request.soId
  require (request.acknowledgeShortfall ∨ short = [])
    (.adminShipError (underPickedText db "ship" short) "silent_shortfall")
  let lines := unshippedLines db request.soId
  require (lines ≠ [])
    (.adminShipError "no shippable lines (nothing picked-but-unshipped)" "nothing_to_ship")
  let fulfillmentId := db.itemFulfillments.nextKey
  let shippedAt := order.shippedAt.getD ctx.now
  let opened := openFulfillment order order.trackingNumber order.carrier
    order.shipMethod (some order.status) shippedAt db
  let shipped ← adminShipLines order fulfillmentId (fallbackBin? db order.warehouseId) lines opened
  let closed := setAdminShipped request.soId shippedAt shipped
  pure (if order.status = .soShipped then closed
    else emitEvent ctx .shipConfirmed request.soId order.warehouseId closed,
    fulfillmentId)

/-! ## Voiding a ship -/

/-- The fulfillment a void reverses: the latest one that is not voided. -/
def latestShipped? (db : Db) (soId : ℕ) : Option ItemFulfillment :=
  (Inventory.orderBy
    (fun left right =>
      right.shippedAt < left.shippedAt ∨
        (left.shippedAt = right.shippedAt ∧ right.fulfillmentId ≤ left.fulfillmentId))
    (db.itemFulfillments.select fun fulfillment =>
      fulfillment.soId = soId ∧ ¬ fulfillment.voided)).head?

/-- The header update of `record_void_ship`: an order that already was
`SHIPPED` before its corrective ship keeps its shipment columns. -/
def revertHeader (soId : ℕ) (preShipStatus : SalesOrderStatus) (db : Db) : Db :=
  if preShipStatus = .soShipped then setOrderStatus soId preShipStatus db
  else
    { db with
      salesOrders := db.salesOrders.updateKey soId fun order =>
        { order with
          status := preShipStatus
          trackingNumber := none
          carrier := none
          shippedAt := none } }

/-- `record_void_ship` behind the void route.  A fulfillment without a recorded
pre-ship status cannot be voided: the header's status column is not nullable. -/
def voidShip (ctx : RequestContext) (db : Db) (soId : ℕ) :
    Except ServiceError (Db × SalesOrderStatus) := do
  let order ← orThrow (db.salesOrders.find? soId) (.httpError 404 "order not found")
  require (order.status = .soShipped) (.httpError 409 "order is not in SHIPPED status; cannot void")
  let fulfillment ← orThrow (latestShipped? db soId)
    (.httpError 409 "no SHIPPED fulfillment found for this order")
  let preShipStatus ← orThrow fulfillment.preShipStatus
    (.integrityError "sales_orders_status_not_null")
  let reverted := revertHeader soId preShipStatus db
  let voided :=
    { reverted with
      itemFulfillments := reverted.itemFulfillments.updateKey
        fulfillment.fulfillmentId fun row => { row with voided := true }
      salesOrderLines := reverted.salesOrderLines.update
        (fun line => line.soId = soId)
        fun line =>
          { line with quantityShipped := 0, status := .ofOrder preShipStatus } }
  pure (emitEvent ctx .shipVoided soId order.warehouseId voided, preShipStatus)

end SentryWms.Fulfillment

import SentryWms.Fulfillment.Shipping

/-!
# Header edits

`update_sales_order`, as far as it moves an order's status, and the release of an
order from fraud review.
-/

namespace SentryWms.SalesOrders

open Relational

/-- The columns of the edit that decide a status change. -/
structure UpdateSalesOrderRequest where
  soId : ℕ
  status : Option SalesOrderStatus
  carrier : Option String
  trackingNumber : Option String
  shipMethod : Option String

/-- `"pickup" in ship_method.lower()`. -/
def isLocalPickup (shipMethod : Option String) : Bool :=
  shipMethod.any fun text => 1 < (text.toLower.splitOn "pickup").length

def carrierTokens : List (String × String) :=
  [("usps", "USPS"), ("ups", "UPS"), ("fedex", "FedEx"), ("fed ex", "FedEx"),
    ("dhl", "DHL"), ("amazon", "Amazon")]

/-- `carrier_from_ship_method`. -/
def carrierFromShipMethod (shipMethod : Option String) : String :=
  let haystack := (shipMethod.getD "").toLower
  ((carrierTokens.find? fun token =>
    1 < (haystack.splitOn token.1).length).map Prod.snd).getD "Other"

/-- A value that is present and not blank. -/
def nonBlank (text : Option String) : Bool :=
  text.any fun value => !value.trimAscii.isEmpty

/-- The right to edit an order of this status. -/
def checkEditRights (ctx : RequestContext) (order : SalesOrder) :
    Except ServiceError Unit := do
  require (ctx.isAdmin ∨ ¬ ctx.hasSoFullEdit ∨ order.status ≠ .soShipped)
    (.httpError 403 "Cannot edit a SHIPPED order; void the shipment first")
  require (ctx.isAdmin ∨ ctx.hasSoFullEdit ∨ order.status = .soOpen)
    (.httpError 403 "non-admin can only edit OPEN sales orders without the so-full-edit override")

/-- A manual flip to `SHIPPED` is a real ship; its carrier falls back to the
one the ship method names. -/
def shipByEdit (ctx : RequestContext) (db : Db) (order : SalesOrder)
    (request : UpdateSalesOrderRequest) : Except ServiceError Db := do
  require (order.status = .soPicked ∨ order.status = .soPacked)
    (.httpError 422 "Can only ship an order from PICKED or PACKED")
  let tracking := request.trackingNumber.or order.trackingNumber
  let shipMethod := request.shipMethod.or order.shipMethod
  let explicit := request.carrier.or order.carrier
  require (nonBlank tracking ∨ isLocalPickup shipMethod)
    (.httpError 422 "tracking_number is required to ship unless ship_method indicates local pickup")
  Fulfillment.recordShip ctx db order
    { trackingNumber := tracking
      carrier :=
        if nonBlank explicit then explicit
        else some (carrierFromShipMethod shipMethod)
      shipMethod := shipMethod
      preShipStatus := some order.status
      shippedAt := ctx.now }

/-- The columns the edit writes itself when it is not a ship. -/
def writeHeader (request : UpdateSalesOrderRequest) (db : Db) : Db :=
  { db with
    salesOrders := db.salesOrders.updateKey request.soId fun order =>
      { order with
        status := request.status.getD order.status
        carrier := request.carrier.or order.carrier
        trackingNumber := request.trackingNumber.or order.trackingNumber
        shipMethod := request.shipMethod.or order.shipMethod } }

/-- `update_sales_order`.  Any status but a ship is a bare header update. -/
def updateSalesOrder (ctx : RequestContext) (db : Db)
    (request : UpdateSalesOrderRequest) : Except ServiceError (Db × Unit) := do
  let order ← orThrow (db.salesOrders.find? request.soId) (.httpError 404 "Sales order not found")
  checkEditRights ctx order
  let edited ←
    if request.status = some .soShipped ∧ order.status ≠ .soShipped then
      shipByEdit ctx db order request
    else pure (writeHeader request db)
  pure (emitEvent ctx .salesOrderEditCompleted request.soId order.warehouseId edited, ())

/-- The push-to-queue route: fraud review is cleared by hand. -/
def pushToQueue (db : Db) (soId : ℕ) : Except ServiceError (Db × Unit) := do
  let order ← orThrow (db.salesOrders.find? soId) (.httpError 404 "Sales order not found")
  require (order.status = .soFraudReview)
    (.httpError 409
      s!"Can only push FRAUD_REVIEW orders to the queue. Current: {order.status.text}")
  pure (setOrderStatus soId .soOpen db, ())

end SentryWms.SalesOrders

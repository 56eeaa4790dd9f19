import SentryWms.Picking.Tasks

/-!
# Packing

`verify_item`, which counts scanned units of a picked order as packed, and
`complete_packing`, which closes the order for packing once every picked unit is
verified and no line is silently short.
-/

namespace SentryWms.Fulfillment

open Relational

/-- The line's item carries the scanned barcode. -/
def scannedAs (db : Db) (scannedBarcode : String) (line : SalesOrderLine) : Bool :=
  (db.items.find? line.itemId).any (Picking.barcodeMatches scannedBarcode)

/-- The scanned line: the first whose item matches and that has picked units
left to verify. -/
def matchedLine (db : Db) (soId : ℕ) (scannedBarcode : String) : Option SalesOrderLine :=
  (linesOf db soId).find? fun line =>
    scannedAs db scannedBarcode line ∧ line.quantityPacked < line.quantityPicked

structure VerifyItemRequest where
  soId : ℕ
  scannedBarcode : String
  quantity : ℤ
  quantity_pos : 0 < quantity

/-- `SET quantity_packed = :qty, status = CASE ...`. -/
def setPacked (qty : ℤ) (line : SalesOrderLine) : SalesOrderLine :=
  { line with
    quantityPacked := qty
    status := if line.quantityPicked ≤ qty then .ofOrder .soPacked else line.status }

/-- `verify_item`. -/
def verifyItem (db : Db) (request : VerifyItemRequest) :
    Except ServiceError (Db × ℕ) := do
  let order ← orThrow (db.salesOrders.find? request.soId) (.httpError 404 "Order not found")
  require (order.status = .soPicked)
    (.httpError 400 s!"Order is not ready for packing. Current status: {order.status.text}")
  let line ← orThrow (matchedLine db request.soId request.scannedBarcode)
    (.httpError 400
      (if (linesOf db request.soId).any (scannedAs db request.scannedBarcode) then
        "Item already fully verified on this order"
      else "Item not found on this order"))
  let remaining := line.quantityPicked - line.quantityPacked
  require (request.quantity ≤ remaining)
    (.httpError 400 s!"Over-pack: only {remaining} items remaining to verify")
  pure (updateLine (some line.soLineId)
      (setPacked (line.quantityPacked + request.quantity)) db, line.soLineId)

/-- The lines with picked units that are not packed. -/
def unverifiedLines (db : Db) (soId : ℕ) : List SalesOrderLine :=
  (linesOf db soId).filter fun line => line.quantityPacked < line.quantityPicked

/-- The refusal names the first line and counts the others. -/
def underPickedText (db : Db) (action : String) (lines : List SalesOrderLine) : String :=
  match lines with
  | [] => ""
  | line :: rest =>
      let others := rest.length
      let more := if rest = [] then "" else s!" (+{others} more)"
      s!"Cannot {action} - line under-picked with no short-close marker: " ++
        s!"sku={skuOf db line.itemId} ordered={line.quantityOrdered} " ++
        s!"picked={line.quantityPicked}{more}"

/-- `complete_packing`. -/
def completePacking (ctx : RequestContext) (db : Db) (soId : ℕ) :
    Except ServiceError (Db × SalesOrderStatus) := do
  let order ← orThrow (db.salesOrders.find? soId) (.httpError 404 "Order not found")
  require (order.status = .soPicked)
    (.httpError 400 s!"Order is not ready for packing. Current status: {order.status.text}")
  let unverified := (unverifiedLines db soId).length
  require (unverified = 0)
    (.httpError 400 s!"Cannot complete packing - {unverified} items not yet verified")
  let short := silentlyShort db soId
  require (short = []) (.httpError 400 (underPickedText db "complete packing" short))
  pure (emitEvent ctx .packConfirmed soId order.warehouseId
    (setOrderStatus soId .soPacked db), .soPacked)

end SentryWms.Fulfillment

import SentryWms.SalesOrders.Lines

/-!
# Partial fulfilment

`partial_fulfill_sales_order`: shrink the shorted lines, write the shortage off
the shelf where the system still shows stock, and open a backorder for the rest.
-/

namespace SentryWms.SalesOrders

open Relational Inventory

/-! ## The shortage adjustment -/

/-- The row with most available units, the lowest bin first among equals. -/
def fullestRow? (db : Db) (itemId warehouseId : ℕ) : Option InventoryRow :=
  (orderBy
    (fun left right =>
      right.available < left.available ∨
        (left.available = right.available ∧ left.binId ≤ right.binId))
    (db.inventory.select fun row =>
      row.itemId = itemId ∧ row.warehouseId = warehouseId ∧ 0 < row.available)).head?

/-- The row, and the units taken off the books there. -/
def shortAdjustment? (db : Db) (itemId warehouseId : ℕ) (shortQty : ℤ) :
    Option (InventoryRow × ℤ) :=
  ((fullestRow? db itemId warehouseId).map fun row =>
    (row, min row.available shortQty)).filter fun found => 0 < found.2

/-- `_write_short_adjustment`: the units leave every row of the chosen bin, and
one approved adjustment records them. -/
def writeShortAdjustment (ctx : RequestContext) (itemId warehouseId : ℕ)
    (shortQty : ℤ) (reasonDetail boSoNumber : String) (db : Db) : Db :=
  match shortAdjustment? db itemId warehouseId shortQty with
  | none => db
  | some (row, adjQty) =>
      let off := writeOff ctx.now itemId row.binId adjQty db
      { off with
        inventoryAdjustments := off.inventoryAdjustments.insert
          fun adjustmentId =>
            { adjustmentId := adjustmentId
              itemId := itemId
              binId := row.binId
              warehouseId := warehouseId
              quantityChange := -adjQty
              reasonDetail := s!"{reasonDetail} (BO: {boSoNumber})"
              status := .adjApproved
              adjustedBy := ctx.username } }

/-! ## The service -/

structure ShortEntry where
  soLineId : ℕ
  shortQty : ℤ
  shortQty_pos : 0 < shortQty
  shortQty_le : shortQty ≤ 1000000

structure PartialFulfillRequest where
  soId : ℕ
  lines : List ShortEntry
  reasonDetail : Option String
  lines_ne_nil : lines ≠ []

/-- Step 1: every entry is on the order and shorts no more than is unpicked. -/
def checkShortEntries (db : Db) (order : SalesOrder) :
    List ShortEntry → Except ServiceError (List (ShortEntry × SalesOrderLine))
  | [] => pure []
  | entry :: rest => do
      let line ← orThrow (lineOn db order.soId entry.soLineId)
        (.httpError 400 s!"so_line_id {entry.soLineId} not on SO {order.soNumber}")
      let unshipped := line.quantityOrdered - line.quantityPicked
      require (entry.shortQty ≤ unshipped)
        (.httpError 400
          s!"short_qty {entry.shortQty} on line {line.lineNumber} exceeds unshipped qty ({line.quantityOrdered} ordered - {line.quantityPicked} picked = {unshipped})")
      let others ← checkShortEntries db order rest
      pure ((entry, line) :: others)

/-- Step 2 for one entry: a line shrunk to zero is deleted. -/
def shrinkLine (ctx : RequestContext) (warehouseId : ℕ) (reasonDetail boSoNumber : String) (db : Db)
    (input : ShortEntry × SalesOrderLine) : Except ServiceError Db := do
  let newQty := input.2.quantityOrdered - input.1.shortQty
  let shrunk ←
    if newQty = 0 then deleteLine input.2.soLineId db
    else pure (updateLine (some input.2.soLineId)
      (fun row => { row with quantityOrdered := newQty }) db)
  pure (writeShortAdjustment ctx input.2.itemId warehouseId input.1.shortQty
    reasonDetail boSoNumber shrunk)

def shrinkLines (ctx : RequestContext) (warehouseId : ℕ) (reasonDetail boSoNumber : String) :
    List (ShortEntry × SalesOrderLine) → Db → Except ServiceError Db
  | [], db => pure db
  | input :: rest, db => do
      let shrunk ← shrinkLine ctx warehouseId reasonDetail boSoNumber db input
      shrinkLines ctx warehouseId reasonDetail boSoNumber rest shrunk

/-- Step 3: the backorder's header, waiting for stock. -/
def insertBackorder (now : ℕ) (order : SalesOrder) (db : Db) : Db :=
  { db with
    salesOrders := db.salesOrders.insert fun soId =>
      { soId := soId
        soNumber := s!"{order.soNumber}-BO"
        status := .soWaitingStock
        warehouseId := order.warehouseId
        orderType := .backorder
        parentSoId := some order.soId
        shipMethod := order.shipMethod
        createdAt := now
        backorderOpenedAt := some now } }

/-- Step 4: one backorder line for each shorted entry, numbered in order. -/
def insertBackorderLine (boSoId : ℕ) (db : Db)
    (input : (ShortEntry × SalesOrderLine) × ℕ) : Db :=
  insertLine boSoId input.1.2.itemId input.1.1.shortQty input.2 db

/-- `(validated.reason_detail or "partial-fulfill").strip()`, defaulting when
nothing is left. -/
def reasonBase (reasonDetail : Option String) : String :=
  match reasonDetail with
  | none => "partial-fulfill"
  | some text => if text.trimAscii.isEmpty then "partial-fulfill"
      else text.trimAscii.toString

/-- `partial_fulfill_sales_order`; the result carries the backorder. -/
def partialFulfillSalesOrder (ctx : RequestContext) (db : Db)
    (request : PartialFulfillRequest) : Except ServiceError (Db × ℕ) := do
  let order ← orThrow (db.salesOrders.find? request.soId) (.httpError 404 "Sales order not found")
  require (order.status = .soOpen ∨ order.status = .soPicked)
    (.httpError 400
      s!"Can only partial-fulfill OPEN or PICKED orders. Current: {order.status.text}")
  require (orderTypeAllowsFulfillmentOps order.orderType)
    (.httpError 400 "Cannot partial-fulfill a return SO.")
  require (order.orderType ≠ .backorder)
    (.httpError 400
      "This SO is a backorder; cancel it and create a fresh standalone SO instead of chaining backorders.")
  require (order.status = .soOpen ∨ ctx.isAdmin ∨ ctx.hasSoFullEdit)
    (.httpError 403 "Partial-fulfill on a PICKED order requires ADMIN or so-full-edit override.")
  let inputs ← checkShortEntries db order request.lines
  let boSoNumber := s!"{order.soNumber}-BO"
  let shrunk ← shrinkLines ctx order.warehouseId (reasonBase request.reasonDetail)
    boSoNumber inputs db
  require (∀ other ∈ shrunk.salesOrders.rows, other.soNumber ≠ boSoNumber)
    (.integrityError "sales_orders_so_number_key")
  let boSoId := shrunk.salesOrders.nextKey
  let filled := run (insertBackorderLine boSoId) (insertBackorder ctx.now order shrunk)
    (inputs.zipIdx 1)
  pure (emitEvent ctx .backorderOpened boSoId order.warehouseId filled, boSoId)

end SentryWms.SalesOrders

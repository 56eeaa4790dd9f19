import SentryWms.Statements

/-!
# Order creation

`create_sales_order`: insert the order and its lines, and reserve for each line
what the warehouse can cover right now, fullest bin first.
-/

namespace SentryWms.SalesOrders

open Relational Inventory

/-- A line of the request body: `quantity_ordered` is bounded by the schema. -/
structure NewLine where
  itemId : ℕ
  quantityOrdered : ℤ
  lineNumber : Option ℤ
  quantityOrdered_pos : 0 < quantityOrdered
  quantityOrdered_le : quantityOrdered ≤ 1000000

structure CreateSalesOrderRequest where
  soNumber : String
  soBarcode : Option String
  warehouseId : ℕ
  shipMethod : Option String
  lines : List NewLine
  soNumber_ne : soNumber ≠ ""
  lines_ne_nil : lines ≠ []
  warehouseId_pos : 0 < warehouseId

/-- `line.get("line_number") or 1`. -/
def NewLine.number (line : NewLine) : ℤ :=
  match line.lineNumber with
  | none => 1
  | some number => if number = 0 then 1 else number

/-- The item check of the request, line by line. -/
def checkItems (db : Db) : List NewLine → Except ServiceError Unit
  | [] => pure ()
  | line :: rest => do
      require ((db.items.find? line.itemId).isSome)
        (.httpError 400 s!"Item {line.itemId} not found")
      checkItems db rest

/-- `INSERT INTO sales_orders`: `order_type` defaults to `sale`, `order_source` to
`web`. -/
def insertOrder (now : ℕ) (request : CreateSalesOrderRequest) (db : Db) : Db :=
  { db with
    salesOrders := db.salesOrders.insert fun soId =>
      { soId := soId
        soNumber := request.soNumber
        soBarcode := request.soBarcode
        status := .soOpen
        warehouseId := request.warehouseId
        shipMethod := request.shipMethod
        createdAt := now } }

/-- `INSERT INTO sales_order_lines` with the column defaults. -/
def insertLine (soId itemId : ℕ) (quantityOrdered lineNumber : ℤ) (db : Db) : Db :=
  { db with
    salesOrderLines := db.salesOrderLines.insert fun soLineId =>
      { soLineId := soLineId
        soId := soId
        itemId := itemId
        quantityOrdered := quantityOrdered
        lineNumber := lineNumber } }

/-- The takes of the reserve loop.  Its rows all have stock to give, so the
loop's `if take <= 0: continue` never fires. -/
def reserveTakes (db : Db) (itemId warehouseId : ℕ) (quantity : ℤ) : List (InventoryRow × ℤ) :=
  draws InventoryRow.available quantity (reservableRows db itemId warehouseId)

def takenUnits (takes : List (InventoryRow × ℤ)) : ℤ := (takes.map Prod.snd).sum

/-- Insert one line and reserve for it. -/
def createLine (ctx : RequestContext) (soId warehouseId : ℕ) (db : Db)
    (line : NewLine) : Db :=
  let inserted := insertLine soId line.itemId line.quantityOrdered line.number db
  let takes := reserveTakes inserted line.itemId warehouseId line.quantityOrdered
  let reserved := applyTakes (some ctx.now) 1 inserted takes
  if 0 < takenUnits takes then
    updateLine (some db.salesOrderLines.nextKey)
      (SalesOrderLine.setAllocated (takenUnits takes)) reserved
  else reserved

/-- `create_sales_order`; the response carries the new identifier. -/
def createSalesOrder (ctx : RequestContext) (db : Db)
    (request : CreateSalesOrderRequest) : Except ServiceError (Db × ℕ) := do
  require (∀ order ∈ db.salesOrders.rows, order.soNumber ≠ request.soNumber)
    (.httpError 400 s!"Duplicate so_number: {request.soNumber}")
  checkItems db request.lines
  let soId := db.salesOrders.nextKey
  pure (run (createLine ctx soId request.warehouseId) (insertOrder ctx.now request db)
    request.lines, soId)

end SentryWms.SalesOrders

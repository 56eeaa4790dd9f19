import SentryWms.Inbound.Handler
import SentryWms.SalesOrders.Create

/-!
# The tables behind inbound orders

The canonical tables as the floor sees them, and the write-through of a payload's lines:
the lines of an order are replaced as a whole, unless one of them has been worked on.
-/

namespace SentryWms.Inbound

open Relational SalesOrders

def InboundResource.text : InboundResource → String
  | .salesOrders => "sales_orders"
  | .items => "items"
  | .customers => "customers"
  | .vendors => "vendors"
  | .purchaseOrders => "purchase_orders"

/-- The `external_id` of a row of a canonical table. -/
structure ExternalId where
  resource : InboundResource
  canonicalId : ℕ
  rowId : ℕ
  deriving DecidableEq, Repr

def ExternalId.key (row : ExternalId) : InboundResource × ℕ := (row.resource, row.canonicalId)

structure FloorTables where
  db : Db
  externalIds : Keyed ExternalId ExternalId.key

/-- `SELECT so_id FROM sales_orders WHERE external_id = :cid`, and its like. -/
def FloorTables.rowIdOf (tables : FloorTables) (resource : InboundResource)
    (canonicalId : ℕ) : Option ℕ :=
  (tables.externalIds.lookup (resource, canonicalId)).map ExternalId.rowId

/-! ## The downstream gate -/

/-- `quantity_allocated > 0 OR quantity_picked > 0 OR quantity_packed > 0 OR
quantity_shipped > 0`. -/
def salesOrderLineInFlight (line : SalesOrderLine) : Bool :=
  0 < line.quantityAllocated ∨ 0 < line.quantityPicked ∨ 0 < line.quantityPacked ∨
    0 < line.quantityShipped

/-- `quantity_received > 0`. -/
def purchaseOrderLineInFlight (line : PurchaseOrderLine) : Bool := 0 < line.quantityReceived

def purchaseLinesOf (db : Db) (poId : ℕ) : List PurchaseOrderLine :=
  db.purchaseOrderLines.select fun line => line.poId = poId

/-- `SELECT COUNT(*) ... WHERE downstream_predicate`. -/
def linesInFlight (db : Db) (resource : InboundResource) (headerPk : ℕ) : ℕ :=
  match resource with
  | .salesOrders => (linesOf db headerPk).countP salesOrderLineInFlight
  | .purchaseOrders => (purchaseLinesOf db headerPk).countP purchaseOrderLineInFlight
  | _ => 0

/-! ## Resolving the lines -/

structure ParsedLine where
  idx : ℕ
  itemUuid : ℕ
  rawQty : Option ℤ
  lineNumber : ℤ
  deriving DecidableEq, Repr

structure ResolvedLine where
  itemId : ℕ
  quantity : ℤ
  lineNumber : ℤ
  deriving DecidableEq, Repr

def parseLine (resource : InboundResource) (line : InboundLine × ℕ) :
    Except ServiceError ParsedLine := do
  let (line, idx) := line
  let itemUuid ← orThrow line.itemId
    (.valueError (s!"{resource.text} line {idx}: item_id is required " ++
      "(declare cross_system_lookup on the line_items field)"))
  pure
    { idx := idx
      itemUuid := itemUuid
      rawQty := line.quantityOrdered
      lineNumber := line.lineNumber.getD (idx + 1) }

def resolveLine (tables : FloorTables) (resource : InboundResource) (line : ParsedLine) :
    Except ServiceError ResolvedLine := do
  let itemId ← orThrow (tables.rowIdOf .items line.itemUuid)
    (.httpError 409 "cross_system_lookup_miss")
  let quantity ← orThrow line.rawQty
    (.valueError s!"{resource.text} line {line.idx}: quantity_ordered is required")
  require (0 < quantity)
    (.valueError s!"{resource.text} line {line.idx}: quantity_ordered must be > 0")
  pure { itemId := itemId, quantity := quantity, lineNumber := line.lineNumber }

/-- All lines are parsed before any is resolved. -/
def resolveLines (tables : FloorTables) (resource : InboundResource)
    (lines : List InboundLine) : Except ServiceError (List ResolvedLine) := do
  let parsed ← lines.zipIdx.mapM (parseLine resource)
  parsed.mapM (resolveLine tables resource)

/-! ## Replacing the lines -/

/-- `DELETE FROM sales_order_lines WHERE so_id = :hpk`, row by row. -/
def deleteSalesOrderLines : List SalesOrderLine → Db → Except ServiceError Db
  | [], db => pure db
  | line :: rest, db => do
      let deleted ← deleteLine line.soLineId db
      deleteSalesOrderLines rest deleted

/-- `DELETE FROM purchase_order_lines WHERE po_id = :hpk`.  A receipt keeps its line from
being deleted. -/
def deletePurchaseOrderLines (poId : ℕ) (db : Db) : Except ServiceError Db := do
  require (∀ receipt ∈ db.itemReceipts.rows, ∀ line ∈ purchaseLinesOf db poId,
      receipt.poLineId ≠ some line.poLineId)
    (.integrityError "item_receipts_po_line_id_fkey")
  pure
    { db with
      purchaseOrderLines := db.purchaseOrderLines.delete fun line => line.poId = poId }

def insertSalesOrderLine (soId : ℕ) (db : Db) (line : ResolvedLine) : Db :=
  insertLine soId line.itemId line.quantity line.lineNumber db

def insertPurchaseOrderLine (poId : ℕ) (db : Db) (line : ResolvedLine) : Db :=
  { db with
    purchaseOrderLines := db.purchaseOrderLines.insert fun poLineId =>
      { poLineId := poLineId
        poId := poId
        itemId := line.itemId
        quantityOrdered := line.quantity
        lineNumber := line.lineNumber } }

/-- The `DELETE` and the multi-row `INSERT`. -/
def replaceLines (resource : InboundResource) (headerPk : ℕ)
    (resolved : List ResolvedLine) (db : Db) : Except ServiceError Db :=
  match resource with
  | .salesOrders => do
      let deleted ← deleteSalesOrderLines (linesOf db headerPk) db
      pure (run (insertSalesOrderLine headerPk) deleted resolved)
  | .purchaseOrders => do
      let deleted ← deletePurchaseOrderLines headerPk db
      pure (run (insertPurchaseOrderLine headerPk) deleted resolved)
  | _ => pure db

/-- `_LINE_RESOURCE_SPECS.get(resource_key) is not None`. -/
def InboundResource.hasLines : InboundResource → Bool
  | .salesOrders | .purchaseOrders => true
  | _ => false

/-- `_write_inbound_lines`.  A payload without lines leaves the stored ones alone. -/
def writeInboundLines (resource : InboundResource) (canonicalId : ℕ)
    (lines : List InboundLine) (tables : FloorTables) : Except ServiceError FloorTables :=
  if resource.hasLines = false ∨ lines = [] then .ok tables
  else do
    let headerPk ← orThrow (tables.rowIdOf resource canonicalId)
      (.runtimeError
        s!"line write-through: {resource.text} row missing for canonical_id={canonicalId}")
    require (linesInFlight tables.db resource headerPk = 0) (.httpError 409 "lines_in_flight")
    let resolved ← resolveLines tables resource lines
    let replaced ← replaceLines resource headerPk resolved tables.db
    pure { tables with db := replaced }

/-! ## What a replacement leaves alone -/

variable {db db' : Db} {resource : InboundResource}

theorem deleteLine_salesOrders {soLineId : ℕ}
    (hdelete : deleteLine soLineId db = .ok db') : db'.salesOrders = db.salesOrders := by
  simp only [deleteLine, bind_eq_ok, pure_eq_ok] at hdelete
  obtain ⟨-, -, -, -, rfl⟩ := hdelete
  rfl

theorem deleteSalesOrderLines_salesOrders {lines : List SalesOrderLine}
    (hdelete : deleteSalesOrderLines lines db = .ok db') :
    db'.salesOrders = db.salesOrders := by
  induction lines generalizing db with
  | nil =>
      cases hdelete
      rfl
  | cons line rest ih =>
      simp only [deleteSalesOrderLines, bind_eq_ok] at hdelete
      obtain ⟨middle, hline, hrest⟩ := hdelete
      rw [ih hrest, deleteLine_salesOrders hline]

theorem replaceLines_salesOrders {headerPk : ℕ} {resolved : List ResolvedLine}
    (hreplace : replaceLines resource headerPk resolved db = .ok db') :
    db'.salesOrders = db.salesOrders := by
  cases resource with
  | salesOrders =>
      simp only [replaceLines, bind_eq_ok, pure_eq_ok] at hreplace
      obtain ⟨deleted, hdeleted, rfl⟩ := hreplace
      have hinsert : ∀ state line,
          (insertSalesOrderLine headerPk state line).salesOrders = state.salesOrders :=
        fun _ _ => rfl
      rw [run_unchanged Db.salesOrders hinsert, deleteSalesOrderLines_salesOrders hdeleted]
  | purchaseOrders =>
      simp only [replaceLines, bind_eq_ok, pure_eq_ok] at hreplace
      obtain ⟨deleted, hdeleted, rfl⟩ := hreplace
      simp only [deletePurchaseOrderLines, bind_eq_ok, pure_eq_ok] at hdeleted
      obtain ⟨-, -, rfl⟩ := hdeleted
      have hinsert : ∀ state line,
          (insertPurchaseOrderLine headerPk state line).salesOrders = state.salesOrders :=
        fun _ _ => rfl
      rw [run_unchanged Db.salesOrders hinsert]
  | items | customers | vendors =>
      cases hreplace
      rfl

/-- The order headers are not written with the lines. -/
theorem writeInboundLines_salesOrders {canonicalId : ℕ} {lines : List InboundLine}
    {tables tables' : FloorTables}
    (hwrite : writeInboundLines resource canonicalId lines tables = .ok tables') :
    tables'.db.salesOrders = tables.db.salesOrders := by
  rw [writeInboundLines] at hwrite
  split at hwrite
  · cases hwrite
    rfl
  · simp only [bind_eq_ok, pure_eq_ok] at hwrite
    obtain ⟨headerPk, -, -, -, resolved, -, replaced, hreplaced, rfl⟩ := hwrite
    exact replaceLines_salesOrders hreplaced

end SentryWms.Inbound

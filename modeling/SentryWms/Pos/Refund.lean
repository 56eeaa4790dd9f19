import SentryWms.Pos.Checkout

/-!
# Point-of-sale refund

A refund puts units of a shipped sale back on the shelves it records and books them
on a credit memo, a child order with negative lines.  A full refund covers every
line of the sale; a partial one names lines.  Two checks bound it: what one request
asks at a location, and what all refunds together ask of an item.
-/

namespace SentryWms.Pos

open Relational Inventory SalesOrders

/-- The body of a refund, with its `canonical_body_sha256`.  Without lines the whole
sale is refunded. -/
structure RefundBody where
  idempotencyKey : String
  bodyHash : String
  originalSoNumber : String
  completedAt : ℕ
  paymentMethod : PaymentMethod
  lines : Option (List PosLine)
  lines_valid : ∀ lines' ∈ lines, lines' ≠ [] ∧ ∀ line ∈ lines', ValidLine line

def originalNotFound : ServiceError :=
  .posError "original_so_not_found" "no POS SO found with the given id" 404

/-- The sale a number names, of the point of sale and in the token's scope. -/
def originalSale? (ctx : RequestContext) (db : Db) (soNumber : String) : Option SalesOrder :=
  db.salesOrders.rows.find? fun order =>
    order.soNumber = soNumber ∧ order.orderSource = .pos ∧
      order.orderType = .sale ∧ order.warehouseId ∈ ctx.warehouseIds

/-- `_REFUND_WINDOW_DAYS`, in seconds. -/
def refundWindow : ℕ := 90 * 24 * 60 * 60

/-- The first `POS_CHECKOUT` entry of an order.  The log is append-only, in the
order of `log_id`. -/
def checkoutAudit? (db : Db) (soId : ℕ) : Option AuditEntry :=
  db.auditLog.rows.find? fun entry => entry.entityId = soId ∧ entry.actionType = .posCheckout

/-- The second order is a credit memo of the first. -/
def isMemoOf (db : Db) (soId memoId : ℕ) : Bool :=
  (db.salesOrders.find? memoId).any fun memo =>
    memo.parentSoId = some soId ∧ memo.orderType = .refund

/-- Units of an item the credit memos of an order have refunded:
`SUM(-quantity_shipped)`. -/
def refundedOf (db : Db) (soId itemId : ℕ) : ℤ :=
  db.salesOrderLines.sum fun line =>
    if isMemoOf db soId line.soId ∧ line.itemId = itemId then -line.quantityShipped
    else 0

/-- The two lines have the same codes. -/
def sameLocation (left right : Located) : Bool :=
  left.line.sku = right.line.sku ∧ left.line.warehouseCode = right.line.warehouseCode ∧
    left.line.binCode = right.line.binCode

/-- Units of the lines at a line's codes. -/
def unitsAtCodes (lines : List Located) (line : Located) : ℤ :=
  (lines.map fun other =>
    if sameLocation other line then other.quantity else 0).sum

/-- The lines a refund covers: all that were sold, or those named, each location of
which sold as much as this request asks there. -/
def linesToRefund (db : Db) (sold : List Located) (body : RefundBody) :
    Except ServiceError (List Located) :=
  match body.lines with
  | none => pure sold
  | some lines => do
      require (allLocated db lines)
        (.posError "refund_line_not_in_order"
          "refund line does not match an original sale line" 422)
      let requested := locate db lines
      require (∀ line ∈ requested,
          (∃ original ∈ sold, sameLocation original line) ∧
            unitsAtCodes requested line ≤ unitsAtCodes sold line)
        (.posError "refund_line_not_in_order"
          "refund line quantity exceeds the original sale line" 422)
      pure requested

/-- The cumulative guard: together with the refunds so far, no item of the request
exceeds what was sold of it. -/
def withinSale (db : Db) (soId : ℕ) (sold lines : List Located) : Prop :=
  ∀ line ∈ lines,
    refundedOf db soId line.itemId + unitsOf lines line.itemId ≤ unitsOf sold line.itemId

instance (db : Db) (soId : ℕ) (sold lines : List Located) :
    Decidable (withinSale db soId sold lines) := by
  unfold withinSale
  infer_instance

/-- With this refund every item of the sale is refunded in full. -/
def fullyRefunds (db : Db) (soId : ℕ) (sold lines : List Located) : Bool :=
  sold.all fun line =>
    refundedOf db soId line.itemId + unitsOf lines line.itemId = unitsOf sold line.itemId

/-- The header of the credit memo. -/
def creditMemo (ctx : RequestContext) (body : RefundBody) (soNumber : String)
    (original : SalesOrder) : SalesOrder where
  soId := 0
  soNumber := soNumber
  soBarcode := some soNumber
  status := .soShipped
  warehouseId := original.warehouseId
  orderType := .refund
  parentSoId := some original.soId
  shippedAt := some body.completedAt
  createdAt := ctx.now
  orderSource := .pos
  idempotencyKey := some body.idempotencyKey
  idempotencyBodyHash := some body.bodyHash

/-- One line of the memo: its credit line, and its units back on their shelf. -/
def creditLine (ctx : RequestContext) (refundSoId : ℕ) (db : Db) (line : Located) :
    Except ServiceError Db := do
  let row ← orThrow (lineRow? db line)
    (.posError "original_so_not_found" "could not relocate original inventory row" 404)
  pure (addOnHand ctx.now line.quantity row.inventoryId
    (insertPosLine refundSoId line.itemId (-line.quantity) 0 (-line.quantity)
      (line.idx + 1) (.ofOrder .soShipped) db))

def creditLines (ctx : RequestContext) (refundSoId : ℕ) :
    List Located → Db → Except ServiceError Db
  | [], db => pure db
  | line :: rest, db => do
      let credited ← creditLine ctx refundSoId db line
      creditLines ctx refundSoId rest credited

/-- `SET refunded_at = NOW(), refund_so_id = :id, status = 'REFUNDED'`. -/
def markRefunded (now soId refundSoId : ℕ) (db : Db) : Db :=
  { db with
    salesOrders := db.salesOrders.updateKey soId fun order =>
      { order with
        refundedAt := some now
        refundSoId := some refundSoId
        status := .soRefunded } }

/-- The sale a refund is for, with the entry of its checkout, once it has passed the
checks of the order and the tender. -/
def refundableSale (ctx : RequestContext) (db : Db) (body : RefundBody) :
    Except ServiceError (SalesOrder × AuditEntry) := do
  require (ctx.warehouseIds ≠ []) originalNotFound
  let original ← orThrow (originalSale? ctx db body.originalSoNumber) originalNotFound
  require (original.refundedAt = none ∧ original.refundSoId = none)
    (.posError "already_refunded" "original SO has already been refunded" 422)
  require (original.status = .soShipped) originalNotFound
  require (ctx.now ≤ original.createdAt + refundWindow)
    (.posError "refund_window_expired" "original sale is older than 90 days" 422)
  let entry ← orThrow (checkoutAudit? db original.soId)
    (.posError "original_so_not_found" "audit details missing for original SO" 404)
  require (entry.paymentMethod = body.paymentMethod)
    (.posError "tender_mismatch"
      s!"{entry.paymentMethod.text} sale cannot be refunded as {body.paymentMethod.text}"
      422)
  require (entry.lines ≠ [])
    (.posError "original_so_not_found" "audit details carry no line locations" 404)
  require (allLocated db entry.lines)
    (.posError "original_so_not_found" "could not resolve original line locations" 404)
  pure (original, entry)

/-- What an accepted refund writes. -/
def bookRefund (ctx : RequestContext) (db : Db) (body : RefundBody)
    (original : SalesOrder) (sold lines : List Located) :
    Except ServiceError (Db × PosResponse) := do
  let refundSoId := db.salesOrders.nextKey
  let refundSoNumber ← mintChildSoNumber db original.soId original.soNumber .refund
  let opened ← insertPosOrder (creditMemo ctx body refundSoNumber original) db
  let credited ← creditLines ctx refundSoId (lockOrder lines) opened
  let fullyRefunded := fullyRefunds db original.soId sold lines
  let marked :=
    if fullyRefunded then markRefunded ctx.now original.soId refundSoId credited
    else credited
  let response := PosResponse.refund refundSoNumber original.soNumber fullyRefunded
  pure (cacheResponse refundSoId response
    (writePosAudit .posRefund refundSoId body.paymentMethod
      (lines.map Located.line) marked), response)

/-- A refund that passes its checks: the sale, the lines it sold and the lines to
refund. -/
structure CheckedRefund where
  original : SalesOrder
  sold : List Located
  lines : List Located
  deriving DecidableEq, Repr

/-- The checks of a refund. -/
def checkRefund (ctx : RequestContext) (db : Db) (body : RefundBody) :
    Except ServiceError CheckedRefund := do
  let (original, entry) ← refundableSale ctx db body
  let sold := locate db entry.lines
  let lines ← linesToRefund db sold body
  require (withinSale db original.soId sold lines)
    (.posError "refund_exceeds_remaining"
      "refund quantity exceeds the unrefunded remainder for an item" 422)
  pure { original := original, sold := sold, lines := lines }

/-- A refund under a key that is not taken. -/
def newRefund (ctx : RequestContext) (db : Db) (body : RefundBody) :
    Except ServiceError (Db × PosResponse) := do
  let checked ← checkRefund ctx db body
  bookRefund ctx db body checked.original checked.sold checked.lines

/-- `refund`. -/
def refund (ctx : RequestContext) (db : Db) (body : RefundBody) :
    Except ServiceError (Db × PosResponse) :=
  match replay? db "idempotency_key matches an existing refund but body differs"
      body.idempotencyKey body.bodyHash with
  | some outcome => outcome.map fun response => (db, response)
  | none => newRefund ctx db body

end SentryWms.Pos

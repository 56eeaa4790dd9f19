import SentryWms.Picking.Batch

/-!
# Admin picks

`record_admin_pick`, the operator shortcut that books floor work after the fact,
and `maybe_promote_so_to_picked`, which flips the order once it is fully picked.
-/

namespace SentryWms.SalesOrders

open Relational Inventory

/-- An entry of the request: line, bin and quantity. -/
structure AdminPickEntry where
  soLineId : ℕ
  binId : ℕ
  quantity : ℤ
  quantity_pos : 0 < quantity
  quantity_le : quantity ≤ 1000000

structure AdminPickRequest where
  soId : ℕ
  picks : List AdminPickEntry

/-- `by_line`: the units asked of one line. -/
def askedOf (picks : List AdminPickEntry) (soLineId : ℕ) : ℤ :=
  ((picks.filter fun pick => pick.soLineId = soLineId).map AdminPickEntry.quantity).sum

/-- The line of an entry, on the order. -/
def pickLine (db : Db) (soId : ℕ) (pick : AdminPickEntry) : Option SalesOrderLine :=
  (db.salesOrderLines.find? pick.soLineId).filter fun line => line.soId = soId

/-- The entries with their lines. -/
def withLines (db : Db) (soId : ℕ) (picks : List AdminPickEntry) :
    List (AdminPickEntry × SalesOrderLine) :=
  picks.filterMap fun pick => (pickLine db soId pick).map fun line => (pick, line)

/-- A loop of checks, which ends at the first refusal. -/
def checkEach {Entry : Type} (check : Entry → Except ServiceError Unit) :
    List Entry → Except ServiceError Unit
  | [] => pure ()
  | entry :: rest => do
      check entry
      checkEach check rest

/-- The over-pick guard of one line, over all entries for it. -/
def checkAsked (picks : List AdminPickEntry) (entry : AdminPickEntry × SalesOrderLine) :
    Except ServiceError Unit :=
  let soLineId := entry.1.soLineId
  let total := askedOf picks soLineId
  let remaining := entry.2.quantityOrdered - entry.2.quantityPicked
  require (total ≤ remaining)
    (.adminPickError s!"line {soLineId} over-pick: requested {total}, remaining {remaining}"
      "over_pick")

/-- The validation of the lines: each is on the order, and the entries ask no
more than it still needs. -/
def checkPickLines (db : Db) (soId : ℕ) (picks : List AdminPickEntry) :
    Except ServiceError Unit := do
  let missing := ((picks.filter fun pick => (pickLine db soId pick).isNone).map
    AdminPickEntry.soLineId).eraseDups
  require (missing = [])
    (.adminPickError s!"so_line_id(s) not on SO {soId}: {idList missing}" "line_not_on_so")
  checkEach (checkAsked picks) (withLines db soId picks)

/-- A bin exists and is in the order's warehouse. -/
def checkPickBin (db : Db) (order : SalesOrder) (binId : ℕ) : Except ServiceError Unit := do
  let bin ← orThrow (db.bins.find? binId)
    (.adminPickError s!"bin {binId} not found" "bin_not_found")
  require (bin.warehouseId = order.warehouseId)
    (.adminPickError
      s!"bin {binId} is in warehouse {bin.warehouseId}, SO {order.soId} is in warehouse {order.warehouseId}"
      "bin_wrong_warehouse")

/-- The validation of the bins, in ascending order. -/
def checkPickBins (db : Db) (order : SalesOrder) (picks : List AdminPickEntry) :
    Except ServiceError Unit :=
  checkEach (checkPickBin db order)
    (orderBy (· ≤ ·) (picks.map AdminPickEntry.binId).eraseDups)

/-- The wrapper batch, `COMPLETED` from the start, and its one order. -/
def openAdminBatch (ctx : RequestContext) (order : SalesOrder) (db : Db) : Db :=
  { db with
    pickBatches := db.pickBatches.insert fun batchId =>
      { batchId := batchId
        warehouseId := order.warehouseId
        status := .batchCompleted
        assignedTo := ctx.username
        totalOrders := 0
        totalItems := 0 }
    pickBatchOrders := db.pickBatchOrders.insert fun batchOrderId =>
      { batchOrderId := batchOrderId
        batchId := db.pickBatches.nextKey
        soId := order.soId } }

/-- The rows of a bin that can give an entry's quantity. -/
def coveringRows (db : Db) (itemId binId : ℕ) (quantity : ℤ) : List InventoryRow :=
  db.inventory.select fun row => row.itemId = itemId ∧ row.binId = binId ∧ quantity ≤ row.available

/-- The line and task writes of one entry. -/
def writeAdminPick (batchId seq : ℕ) (line : SalesOrderLine)
    (pick : AdminPickEntry) (db : Db) : Db :=
  let counted := updateLine (some pick.soLineId) (SalesOrderLine.adminPick pick.quantity) db
  { counted with
    pickTasks := counted.pickTasks.insert fun pickTaskId =>
      { pickTaskId := pickTaskId
        batchId := batchId
        target := .salesOrder line.soId (some pick.soLineId)
        itemId := line.itemId
        binId := pick.binId
        quantityToPick := pick.quantity
        quantityPicked := pick.quantity
        pickSequence := seq
        status := .taskPicked } }

/-- One entry: the `WHERE` clause of the decrement is the availability check, and
no matching row refuses the whole request. -/
def applyAdminPick (ctx : RequestContext) (batchId seq : ℕ)
    (line : SalesOrderLine) (pick : AdminPickEntry) (db : Db) :
    Except ServiceError Db := do
  require (coveringRows db line.itemId pick.binId pick.quantity ≠ [])
    (.adminPickError
      s!"bin {pick.binId} has insufficient available stock for line {pick.soLineId} (requested {pick.quantity})"
      "insufficient_available")
  pure (writeAdminPick batchId seq line pick
    (takeAvailable ctx.now line.itemId pick.binId pick.quantity db))

/-- The loop over the entries; the lines are the rows read up front. -/
def applyAdminPicks (ctx : RequestContext) (batchId : ℕ) :
    ℕ → List (AdminPickEntry × SalesOrderLine) → Db → Except ServiceError Db
  | _, [], db => pure db
  | seq, (pick, line) :: rest, db => do
      let applied ← applyAdminPick ctx batchId seq line pick db
      applyAdminPicks ctx batchId (seq + 1) rest applied

/-- `record_admin_pick`; the result carries the wrapper batch. -/
def recordAdminPick (ctx : RequestContext) (db : Db)
    (request : AdminPickRequest) : Except ServiceError (Db × ℕ) := do
  let order ← orThrow (db.salesOrders.find? request.soId)
    (.adminPickError s!"sales order {request.soId} not found" "so_not_found")
  require (orderTypeAllowsFulfillmentOps order.orderType)
    (.adminPickError "cannot admin-pick a return SO" "not_eligible")
  require (order.status = .soOpen)
    (.adminPickError s!"sales order must be OPEN to admin-pick (current: {order.status.text})"
      "so_not_open")
  require (request.picks ≠ []) (.adminPickError "no picks supplied" "empty")
  checkPickLines db request.soId request.picks
  checkPickBins db order request.picks
  let batchId := db.pickBatches.nextKey
  let applied ← applyAdminPicks ctx batchId 1
    (withLines db request.soId request.picks) (openAdminBatch ctx order db)
  pure (applied, batchId)

/-- `maybe_promote_so_to_picked`: only an open, fully picked order is flipped. -/
def maybePromoteSoToPicked (ctx : RequestContext) (db : Db) (soId : ℕ) : Db :=
  if (linesOf db soId).any fun line =>
      line.quantityPicked < line.quantityOrdered then db
  else
    match db.salesOrders.find? soId with
    | none => db
    | some order =>
        if order.status = .soOpen then
          emitEvent ctx .pickConfirmed soId order.warehouseId (setOrderStatus soId .soPicked db)
        else db

/-- The admin-pick route: the picks, then the promotion. -/
def adminPick (ctx : RequestContext) (db : Db) (request : AdminPickRequest) :
    Except ServiceError (Db × ℕ) := do
  let (applied, batchId) ← recordAdminPick ctx db request
  pure (maybePromoteSoToPicked ctx applied request.soId, batchId)

end SentryWms.SalesOrders

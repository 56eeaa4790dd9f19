import SentryWms.Relational.Grouping
import SentryWms.Statements

/-!
# Coverage planning

`_normalize_so_reservations`, which releases an order's standing reservations
before a batch is planned, and `_plan_coverage`, which decides per item which
orders the pickable stock can cover.
-/

namespace SentryWms.Picking

open Relational Inventory

/-! ## Standing reservations -/

/-- Release one line's reservation down to its picked floor.  The bin it was
taken from is not recorded, so the release walks the item's reserved rows. -/
def normalizeLine (now warehouseId : ℕ) (db : Db) (line : SalesOrderLine) : Db :=
  updateLine (some line.soLineId) SalesOrderLine.allocatedToPicked
    (applyTakes (some now) (-1) db
      (draws InventoryRow.quantityAllocated line.outstanding
        (allocatedRows db line.itemId warehouseId)))

/-- The lines of an order that reserve more than they picked. -/
def reservedLines (db : Db) (soId : ℕ) : List SalesOrderLine :=
  db.salesOrderLines.select fun line =>
    line.soId = soId ∧ line.quantityPicked < line.quantityAllocated

/-- `_normalize_so_reservations`. -/
def normalizeSoReservations (now warehouseId : ℕ) (db : Db) (soId : ℕ) : Db :=
  run (normalizeLine now warehouseId) db (reservedLines db soId)

/-- The loop over the orders of a batch. -/
def normalizeOrders (now warehouseId : ℕ) (db : Db) (orders : List SalesOrder) : Db :=
  run (fun db order => normalizeSoReservations now warehouseId db order.soId) db orders

/-! ## The coverage map -/

/-- What one line asks of its item's stock. -/
structure Contribution where
  itemId : ℕ
  soId : ℕ
  soNumber : String
  soLineId : ℕ
  needed : ℤ
  deriving DecidableEq, Repr

def contributionsOf (db : Db) (order : SalesOrder) : List Contribution :=
  (openLines db order.soId).map fun line =>
    { itemId := line.itemId
      soId := order.soId
      soNumber := order.soNumber
      soLineId := line.soLineId
      needed := line.quantityOrdered - line.quantityAllocated }

/-- `coverage_map` of `create_pick_batch` and `line_map` of `wave_create`. -/
def coverageMap (db : Db) (orders : List SalesOrder) : List (ℕ × List Contribution) :=
  groupByKey Contribution.itemId (orders.flatMap (contributionsOf db))

/-! ## The plan -/

/-- `sorted(contributions, key=lambda c: (c["so_id"], c["so_line_id"]))`. -/
def byOrderAndLine (contributions : List Contribution) : List Contribution :=
  orderBy
    (fun left right =>
      left.soId < right.soId ∨ (left.soId = right.soId ∧ left.soLineId ≤ right.soLineId))
    contributions

def totalAvailable (rows : List InventoryRow) : ℤ := (rows.map InventoryRow.available).sum

/-- Walk the contributions of an item: one that still fits uses its units, one
that does not is skipped and reported with the units left at that point. -/
def coverItem (total : ℤ) : ℤ → List Contribution → List (Contribution × ℤ)
  | _, [] => []
  | cumulative, contribution :: rest =>
      if cumulative + contribution.needed ≤ total then
        coverItem total (cumulative + contribution.needed) rest
      else
        (contribution, max 0 (total - cumulative)) :: coverItem total cumulative rest

/-- The contributions of one item that the plan leaves uncovered, with the line
the picker is shown for each. -/
def uncoveredOf (db : Db) (warehouseId : ℕ) (group : ℕ × List Contribution) :
    List (Contribution × UncoveredLine) :=
  (coverItem (totalAvailable (pickableRows db group.1 warehouseId)) 0
      (byOrderAndLine group.2)).map fun (contribution, available) =>
    (contribution,
      { sku := (db.items.find? group.1).map Item.sku
        itemName := (db.items.find? group.1).map Item.itemName
        ordered := contribution.needed
        available := available })

def uncovered (db : Db) (warehouseId : ℕ) (groups : List (ℕ × List Contribution)) :
    List (Contribution × UncoveredLine) :=
  groups.flatMap (uncoveredOf db warehouseId)

/-- `unpickable_by_so`: one entry per order, in the order they were met. -/
def unpickableBySo (found : List (Contribution × UncoveredLine)) : List UncoveredOrder :=
  (groupByKey (fun entry => entry.1.soId) found).map fun (soId, entries) =>
    { soId := soId
      soNumber := entries.head?.elim "" fun entry => entry.1.soNumber
      lines := entries.map Prod.snd }

/-- `_plan_coverage`: the uncovered orders, and the rows each item was planned
on. -/
def planCoverage (db : Db) (groups : List (ℕ × List Contribution)) (warehouseId : ℕ) :
    List UncoveredOrder × List (ℕ × List InventoryRow) :=
  (unpickableBySo (uncovered db warehouseId groups),
    groups.map fun group => (group.1, pickableRows db group.1 warehouseId))

end SentryWms.Picking

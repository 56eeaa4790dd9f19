import SentryWms.Picking.Batch

/-!
# Wave creation

`wave_create` plans like `create_pick_batch` but consolidates the demand of all
its orders per item: one task per bin row, charged to the item's first
contributor, with a breakdown row for each contributor the task serves.
-/

namespace SentryWms.Picking

open Relational Inventory

/-! ## Validation -/

/-- `SELECT COUNT(*) FROM sales_order_lines ... GROUP BY so_id`. -/
def lineCount (db : Db) (soId : ℕ) : ℕ := (linesOf db soId).length

/-- The checks of one order, in the order the service raises them. -/
def checkWaveOrder (db : Db) (warehouseId soId : ℕ) :
    Except ServiceError SalesOrder := do
  let order ← orThrow (db.salesOrders.find? soId) (.valueError s!"SO not found: {soId}")
  require (order.warehouseId = warehouseId)
    (.valueError s!"SO {order.soNumber} is in a different warehouse")
  require (order.status = .soOpen)
    (.valueError s!"SO {order.soNumber} status is {order.status.text}, must be OPEN")
  requireInactive db soId fun active => .alreadyInBatch order.soNumber active.batchId
  require (lineCount db soId ≠ 0) (.valueError s!"SO {order.soNumber} has no items")
  pure order

def checkWaveOrders (db : Db) (warehouseId : ℕ) :
    List ℕ → Except ServiceError (List SalesOrder)
  | [] => pure []
  | soId :: rest => do
      let order ← checkWaveOrder db warehouseId soId
      let others ← checkWaveOrders db warehouseId rest
      pure (order :: others)

/-- The second look at the active batches, taken once the inventory rows are
locked. -/
def recheckActive (db : Db) : List SalesOrder → Except ServiceError Unit
  | [] => pure ()
  | order :: rest => do
      requireInactive db order.soId fun active => .alreadyInBatch order.soNumber active.batchId
      recheckActive db rest

/-! ## The allocation loop -/

/-- Distribute a pick over the contributors: the shares written to
`wave_pick_breakdown`. -/
def shares : ℤ → List Contribution → List (Contribution × ℤ)
  | _, [] => []
  | pickRemaining, contrib :: rest =>
      if pickRemaining ≤ 0 then []
      else
        let alloc := min pickRemaining contrib.needed
        if alloc ≤ 0 then shares pickRemaining rest
        else (contrib, alloc) :: shares (pickRemaining - alloc) rest

/-- The same walk, on what the contributors still need:
`contrib["needed"] -= alloc`. -/
def spend : ℤ → List Contribution → List Contribution
  | _, [] => []
  | pickRemaining, contrib :: rest =>
      if pickRemaining ≤ 0 then contrib :: rest
      else
        let alloc := min pickRemaining contrib.needed
        if alloc ≤ 0 then contrib :: spend pickRemaining rest
        else
          { contrib with needed := contrib.needed - alloc } :: spend (pickRemaining - alloc) rest

/-- One breakdown row, and the reservation it stands for on its line. -/
def writeShare (pickTaskId : ℕ) (db : Db) (share : Contribution × ℤ) : Db :=
  updateLine (some share.1.soLineId) (SalesOrderLine.addAllocated share.2)
    { db with
      wavePickBreakdown := db.wavePickBreakdown.insert fun id =>
        { id := id
          pickTaskId := pickTaskId
          soId := share.1.soId
          soLineId := some share.1.soLineId
          quantity := share.2 } }

/-- One bin row of an item: reserve it, write the combined task against the
first contributor, and share the units out. -/
def allocateWaveTake (batchId : ℕ) (first : Contribution)
    (state : Db × List Contribution) (take : InventoryRow × ℤ) :
    Db × List Contribution :=
  let db := state.1
  let reserved := addAllocated none take.2 take.1.inventoryId db
  let tasked :=
    { reserved with
      pickTasks := reserved.pickTasks.insert fun pickTaskId =>
        { pickTaskId := pickTaskId
          batchId := batchId
          target := .salesOrder first.soId (some first.soLineId)
          itemId := first.itemId
          binId := take.1.binId
          quantityToPick := take.2
          pickSequence := pickSequenceOf db take.1
          toteNumber := some "WAVE" } }
  (run (writeShare reserved.pickTasks.nextKey) tasked (shares take.2 state.2), spend take.2 state.2)

def combinedNeeded (contributions : List Contribution) : ℤ :=
  (contributions.map Contribution.needed).sum

/-- Allocate an item on the rows its coverage was planned on. -/
def allocateWaveItem (batchId : ℕ) (rows : List InventoryRow) (db : Db)
    (contributions : List Contribution) : Db :=
  match contributions with
  | [] => db
  | first :: _ =>
      (run (allocateWaveTake batchId first) (db, contributions)
        (draws InventoryRow.available (combinedNeeded contributions) rows)).1

/-- Step 5 of `wave_create`, over the item groups and their planned rows. -/
def allocateWave (batchId : ℕ) (db : Db)
    (groups : List ((ℕ × List Contribution) × List InventoryRow)) : Db :=
  run (fun db group => allocateWaveItem batchId group.2 db group.1.2) db groups

/-! ## The service -/

structure WaveCreateRequest where
  soIds : List ℕ
  warehouseId : ℕ
  excludeSoIds : List ℕ
  soIds_ne_nil : soIds ≠ []
  warehouseId_pos : 0 < warehouseId

structure CreatedWave where
  batchId : ℕ
  totalOrders : ℕ
  totalPicks : ℕ
  totalUnits : ℤ
  orders : List (ℕ × String × ℕ)
  firstPick : Option PickTask
  deriving DecidableEq, Repr

/-- `get_next_task`: the pending task that comes first on the walk. -/
def getNextTask (db : Db) (batchId : ℕ) : Option PickTask :=
  (orderBy (fun left right => left.pickSequence ≤ right.pickSequence)
    ((tasksOf db batchId).filter fun task => task.status = .taskPending)).head?

/-- `wave_create`. -/
def waveCreate (ctx : RequestContext) (db : Db) (request : WaveCreateRequest) :
    Except ServiceError (Db × CreatedWave) := do
  let warehouseId := request.warehouseId
  require request.soIds.Nodup (.valueError "Duplicate SO IDs in request")
  let soIds := request.soIds.filter fun soId => soId ∉ request.excludeSoIds
  require (soIds ≠ []) (.valueError "No sales orders to pick (all excluded or empty input)")
  let scrubbed := cancelPriorUserBatches ctx db warehouseId
  let orders ← checkWaveOrders scrubbed warehouseId soIds
  let normalized := normalizeOrders ctx.now warehouseId scrubbed orders
  let lineMap := coverageMap normalized orders
  let plan := planCoverage normalized lineMap warehouseId
  require (plan.1 = []) (.insufficientCoverage plan.1)
  recheckActive normalized orders
  let batchId := normalized.pickBatches.nextKey
  let listed ← addBatchOrders batchId (withTotes orders) (openBatch ctx warehouseId normalized)
  let allocated := allocateWave batchId listed (lineMap.zip (plan.2.map Prod.snd))
  pure (setBatchTotals batchId orders.length allocated,
    { batchId := batchId
      totalOrders := orders.length
      totalPicks := (tasksOf allocated batchId).length
      totalUnits := batchUnits allocated batchId
      orders := orders.map fun order =>
        (order.soId, order.soNumber,
          ((lineMap.flatMap Prod.snd).filter fun contrib => contrib.soId = order.soId).length)
      firstPick := getNextTask allocated batchId })

end SentryWms.Picking

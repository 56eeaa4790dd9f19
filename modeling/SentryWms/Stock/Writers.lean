import Mathlib.Data.Fintype.Basic
import SentryWms.Relational.Sessions
import SentryWms.Stock.Writes

/-!
# Requests that write stock, statement by statement

Receipts, moves, transfers between warehouses, imported and inbound corrections, picks,
credits of transfer orders and the review of adjustments, each as the statements it sends
about the inventory.  Some lock the rows they read and some do not; some write a
difference and some a quantity worked out from what was read; and a query that may find
several lot rows takes whichever comes first.
-/

namespace SentryWms.Stock

open Relational Sessions

/-! ## Requests -/

/-- The source side of a request that takes units from one row. -/
inductive Lowering
  /-- `create_inter_warehouse_transfer`: any row of the bin, read without a lock. -/
  | interWarehouse
  /-- `move_inventory`: the row of the lot, locked. -/
  | move (lotNumber : Option String)
  /-- `direct_adjustment`: any row of the bin, all of them locked. -/
  | remove
  /-- `_import_inventory_adjustment`: the same, but a row of the file that asks for too
  much is passed over. -/
  | importRow
  deriving DecidableEq, Repr

inductive StockAction
  | addInventory (cell : Cell) (warehouseId quantity : ℕ) (lotNumber : Option String)
  | lower (lowering : Lowering) (cell : Cell) (quantity : ℕ)
  /-- `inventory_update`. -/
  | inventoryUpdate (cell : Cell) (warehouseId targetQuantity : ℕ)
  /-- The inventory update of `confirm_pick`. -/
  | confirmPick (cell : Cell) (picked allocated : ℕ)
  /-- `_credit_destination_inventory`. -/
  | creditDestination (cell : Cell) (warehouseId quantity : ℕ)
  /-- The stock `_import_item` gives a new item. -/
  | importItem (cell : Cell) (warehouseId quantity : ℕ)
  /-- One decision of `review_adjustments`. -/
  | review (adjustmentId : ℕ) (approve : Bool)
  deriving DecidableEq, Repr

/-- An action, with the row its query without an order returns first and the id its
`INSERT` draws from the sequence. -/
structure StockTask where
  action : StockAction
  position : ℕ
  newId : ℕ
  deriving DecidableEq, Repr

structure MovementRequest where
  username : String
  now : ℕ
  tasks : List StockTask

/-! ## Routes -/

/-- A line of a receipt, put away in its bin. -/
structure ReceivedLine where
  cell : Cell
  warehouseId : ℕ
  quantity : ℕ
  lotNumber : Option String

/-- `receive_items`. -/
def receiptActions (lines : List ReceivedLine) : List StockAction :=
  lines.map fun line => .addInventory line.cell line.warehouseId line.quantity line.lotNumber

/-- `create_inter_warehouse_transfer`: the destination row has no lot. -/
def interWarehouseActions (itemId fromBinId toBinId toWarehouseId quantity : ℕ) :
    List StockAction :=
  [.lower .interWarehouse ⟨itemId, fromBinId⟩ quantity,
    .addInventory ⟨itemId, toBinId⟩ toWarehouseId quantity none]

/-- Units found are added, and units gone taken off a row. -/
def correctionAction (lowering : Lowering) (cell : Cell) (warehouseId : ℕ) (change : ℤ) :
    StockAction :=
  if 0 < change then .addInventory cell warehouseId change.toNat none
  else .lower lowering cell (-change).toNat

/-- The adjustment import, a row of the file after the other. -/
def importActions (rows : List (Cell × ℕ × ℤ)) : List StockAction :=
  rows.map fun row => correctionAction .importRow row.1 row.2.1 row.2.2

/-- `review_adjustments`. -/
def reviewActions (decisions : List (ℕ × Bool)) : List StockAction :=
  decisions.map fun decision => .review decision.1 decision.2

/-! ## State -/

inductive StockEventType
  | inventoryAdjustedCompleted
  | cycleCountAdjusted
  deriving DecidableEq, Repr

structure StockEvent where
  eventType : StockEventType
  adjustmentId : ℕ
  quantityDelta : ℤ
  deriving DecidableEq, Repr

/-- The tables; `moves` records the committed writes with the units each has moved. -/
structure StockDb where
  inventory : StockRows
  adjustments : Table InventoryAdjustment InventoryAdjustment.adjustmentId
  /-- The `count_id` and `item_id` of `cycle_count_lines`. -/
  countLines : List (ℕ × ℕ)
  requireCountApprovalSeparation : Option String
  events : List StockEvent
  moves : List (StockWrite × ℤ)

/-- `adjustment_id` of the adjustments the writes approve. -/
def approvedBy (writes : List StockWrite) : List ℕ :=
  writes.filterMap fun write => write.review.map InventoryAdjustment.adjustmentId

/-- What a transaction has written and nobody else sees yet. -/
structure OwnWrites where
  writes : List StockWrite
  rejected : List ℕ
  deriving DecidableEq, Repr

def setStatus (status : AdjustmentStatus) (adjustment : InventoryAdjustment) :
    InventoryAdjustment :=
  { adjustment with status := status }

/-- The inventory as the transaction sees it. -/
def OwnWrites.inventory (own : OwnWrites) (now : ℕ) (db : StockDb) : StockRows :=
  applyAll now own.writes db.inventory

/-- The adjustments as the transaction sees them. -/
def OwnWrites.adjustments (own : OwnWrites) (db : StockDb) :
    Table InventoryAdjustment InventoryAdjustment.adjustmentId :=
  (db.adjustments.update
    (fun adjustment => adjustment.adjustmentId ∈ approvedBy own.writes)
      (setStatus .adjApproved)).update
    (fun adjustment => adjustment.adjustmentId ∈ own.rejected) (setStatus .adjRejected)

/-- The events of an approval; that of a cycle count has one more. -/
def eventsOf (write : StockWrite) : List StockEvent :=
  match write.review with
  | none => []
  | some adjustment =>
      (if adjustment.cycleCountId.isSome then
        [⟨.cycleCountAdjusted, adjustment.adjustmentId, adjustment.quantityChange⟩]
      else []) ++
        [⟨.inventoryAdjustedCompleted, adjustment.adjustmentId, adjustment.quantityChange⟩]

def OwnWrites.commit (own : OwnWrites) (now : ℕ) (db : StockDb) : StockDb :=
  { db with
    inventory := own.inventory now db
    adjustments := own.adjustments db
    events := db.events ++ own.writes.flatMap eventsOf
    moves := db.moves ++ ledger now own.writes db.inventory }

inductive StockLock
  | row (inventoryId : ℕ)
  /-- `pg_advisory_xact_lock(:iid, :bid)`. -/
  | advisory (cell : Cell)
  | adjustment (adjustmentId : ℕ)
  deriving DecidableEq, Repr

/-- Where a transaction is in the first of its tasks. -/
inductive StockPhase
  | next
  /-- `add_inventory` holds the advisory lock. -/
  | advised (cell : Cell) (warehouseId quantity : ℕ) (lotNumber : Option String)
  /-- The adjustment is locked, and pending. -/
  | approving (adjustment : InventoryAdjustment)
  | ready (write : StockWrite)
  deriving DecidableEq, Repr

structure StockMemory where
  todo : List StockTask
  phase : StockPhase
  own : OwnWrites
  locks : List StockLock
  deriving DecidableEq, Repr

/-- What is reported of each write. -/
def StockWrite.report (write : StockWrite) : Cell × ℤ := (write.cell, write.change)

inductive StockAnswer
  /-- Committed, with what it reports of each write. -/
  | done (changes : List (Cell × ℤ))
  | refused
  | failed
  deriving DecidableEq, Repr

/-! ## Statements -/

/-- `WHERE item_id = :iid AND bin_id = :bid`. -/
def cellRows (cell : Cell) (rows : StockRows) : List InventoryRow :=
  rows.select fun row => cellOf row = cell

/-- The same, `AND lot_number IS NOT DISTINCT FROM :lot_number`. -/
def lotRows (cell : Cell) (lotNumber : Option String) (rows : StockRows) : List InventoryRow :=
  rows.select fun row => cellOf row = cell ∧ row.lotNumber = lotNumber

/-- `fetchone()` of a query without an order. -/
def fetchOne (position : ℕ) (found : List InventoryRow) : Option InventoryRow :=
  found[position % found.length]?

def newRow (now newId : ℕ) (cell : Cell) (warehouseId : ℕ) (quantity : ℤ)
    (lotNumber : Option String) : InventoryRow where
  inventoryId := newId
  itemId := cell.itemId
  binId := cell.binId
  warehouseId := warehouseId
  quantityOnHand := quantity
  lotNumber := lotNumber
  updatedAt := now

/-- The write of `add_inventory` and of `_credit_destination_inventory`: onto the row
found, or a new row. -/
def addWrite (now newId : ℕ) (cell : Cell) (warehouseId quantity : ℕ)
    (lotNumber : Option String) (advised : Bool) (existing : Option InventoryRow) :
    StockWrite where
  cell := cell
  change := quantity
  review := none
  effect :=
    match existing with
    | some row => .add row.inventoryId quantity
    | none => .insert (newRow now newId cell warehouseId quantity lotNumber) advised

/-- `set_inventory_quantity` of the row read. -/
def setWrite (cell : Cell) (change : ℤ) (row : InventoryRow) : StockWrite where
  cell := cell
  change := change
  review := none
  effect := .set row.inventoryId row.quantityOnHand (row.quantityOnHand + change)

def pickWrite (cell : Cell) (picked allocated : ℕ) (found : List InventoryRow) :
    StockWrite where
  cell := cell
  change := -picked
  review := none
  effect := .take (found.map InventoryRow.inventoryId) picked allocated

def importItemWrite (now newId : ℕ) (cell : Cell) (warehouseId quantity : ℕ) :
    StockWrite where
  cell := cell
  change := quantity
  review := none
  effect := .insert (newRow now newId cell warehouseId quantity none) false

/-- The write of an approval: the row read, floored at zero, or a new row for units that
appeared. -/
def approvalWrite (now newId : ℕ) (adjustment : InventoryAdjustment)
    (existing : Option InventoryRow) : StockWrite where
  cell := ⟨adjustment.itemId, adjustment.binId⟩
  change := adjustment.quantityChange
  review := some adjustment
  effect :=
    match existing with
    | some row =>
        .set row.inventoryId row.quantityOnHand
          (max 0 (row.quantityOnHand + adjustment.quantityChange))
    | none =>
        if 0 < adjustment.quantityChange then
          .insert (newRow now newId ⟨adjustment.itemId, adjustment.binId⟩
            adjustment.warehouseId adjustment.quantityChange none) false
        else .nothing

def Lowering.finds (cell : Cell) (rows : StockRows) : Lowering → List InventoryRow
  | .move lotNumber => lotRows cell lotNumber rows
  | .interWarehouse | .remove | .importRow => cellRows cell rows

def Lowering.locks : Lowering → Bool
  | .interWarehouse => false
  | .move _ | .remove | .importRow => true

def Lowering.passesOver : Lowering → Bool
  | .importRow => true
  | .interWarehouse | .move _ | .remove => false

abbrev StockOutcome := Outcome StockDb StockMemory StockAnswer

section Statements

variable (request : MovementRequest) (memory : StockMemory) (isLocked : StockLock → Bool)
  (db : StockDb)

/-- The task is done. -/
def StockMemory.finish (memory : StockMemory) : StockMemory :=
  { memory with
    todo := memory.todo.tail
    phase := .next }

def StockMemory.holding (locks : List StockLock) (memory : StockMemory) : StockMemory :=
  { memory with locks := locks ++ memory.locks }

def StockMemory.to (phase : StockPhase) (memory : StockMemory) : StockMemory :=
  { memory with phase := phase }

def rowLocks (found : List InventoryRow) : List StockLock :=
  found.map fun row => .row row.inventoryId

/-- `FOR UPDATE`: wait while another transaction holds one of the locks. -/
def acquire (wanted : List StockLock) (next : StockOutcome) : StockOutcome :=
  if ∃ lock ∈ wanted, isLocked lock = true then .wait else next

/-- The id an `INSERT` would use is taken. -/
def KeyTaken (write : StockWrite) (rows : StockRows) : Prop :=
  ∃ row ∈ write.effect.inserted, rows.find? row.inventoryId ≠ none

/-- The approval of a count whose line is gone has no event to emit. -/
def CountLineGone (write : StockWrite) (db : StockDb) : Prop :=
  ∃ adjustment ∈ write.review, ∃ cycleCountId ∈ adjustment.cycleCountId,
    (cycleCountId, adjustment.itemId) ∉ db.countLines

instance (write : StockWrite) (rows : StockRows) : Decidable (KeyTaken write rows) :=
  inferInstanceAs (Decidable (∃ _ ∈ _, _))

instance (write : StockWrite) (db : StockDb) : Decidable (CountLineGone write db) :=
  inferInstanceAs (Decidable (∃ _ ∈ _, ∃ _ ∈ _, _))

/-- The write statement of a task, and what follows it there. -/
def performWrite (write : StockWrite) : StockOutcome :=
  acquire isLocked (write.effect.rowIds.map .row)
    (if KeyTaken write (memory.own.inventory request.now db) ∨ CountLineGone write db then
      .rollback .failed
    else
      .proceed (StockMemory.holding (write.effect.rowIds.map .row)
        { memory.finish with
          own := { memory.own with writes := memory.own.writes ++ [write] } }))

/-- The lot's rows locked: `add_inventory` past its advisory lock, and the credit. -/
def selectExisting (task : StockTask) (cell : Cell) (warehouseId quantity : ℕ)
    (lotNumber : Option String) (advised : Bool) : StockOutcome :=
  let found := lotRows cell lotNumber (memory.own.inventory request.now db)
  acquire isLocked (rowLocks found)
    (.proceed (StockMemory.holding (rowLocks found) (memory.to (.ready
      (addWrite request.now task.newId cell warehouseId quantity lotNumber advised
        (fetchOne task.position found))))))

def lowerStatement (task : StockTask) (lowering : Lowering) (cell : Cell)
    (quantity : ℕ) : StockOutcome :=
  let found := lowering.finds cell (memory.own.inventory request.now db)
  let locks := if lowering.locks then rowLocks found else []
  acquire isLocked locks
    (match (fetchOne task.position found).filter
        fun row => (quantity : ℤ) ≤ row.quantityOnHand with
    | some row =>
        .proceed (StockMemory.holding locks (memory.to (.ready (setWrite cell (-quantity) row))))
    | none =>
        if lowering.passesOver then .proceed (StockMemory.holding locks memory.finish)
        else .rollback .refused)

/-- `inventory_update`: the bin's rows locked, and the difference to the target. -/
def inventoryUpdateStatement (task : StockTask) (cell : Cell)
    (warehouseId targetQuantity : ℕ) : StockOutcome :=
  let found := cellRows cell (memory.own.inventory request.now db)
  let row? := fetchOne task.position found
  let change : ℤ := targetQuantity - row?.elim 0 InventoryRow.quantityOnHand
  acquire isLocked (rowLocks found)
    (.proceed (StockMemory.holding (rowLocks found)
      (if 0 < change then
        { memory with
          todo := { task with
            action := .addInventory cell warehouseId change.toNat none } :: memory.todo.tail }
      else
        match row?.filter fun _ => change < 0 with
        | some row => memory.to (.ready (setWrite cell change row))
        | none => memory.finish)))

/-- The adjustment, if it is still to be reviewed. -/
def pendingAdjustment? (own : OwnWrites) (adjustmentId : ℕ) : Option InventoryAdjustment :=
  ((own.adjustments db).find? adjustmentId).filter fun adjustment => adjustment.status = .adjPending

/-- The reviewer proposed the count, and may not approve it. -/
def SelfApproval (adjustment : InventoryAdjustment) : Prop :=
  adjustment.cycleCountId.isSome ∧ adjustment.adjustedBy = request.username ∧
    db.requireCountApprovalSeparation = some "true"

instance (adjustment : InventoryAdjustment) : Decidable (SelfApproval request db adjustment) :=
  inferInstanceAs (Decidable (_ ∧ _ ∧ _))

def adjustmentLocks (adjustmentId : ℕ) : List StockLock :=
  ((db.adjustments.find? adjustmentId).map fun _ => StockLock.adjustment adjustmentId).toList

def reviewStatement (adjustmentId : ℕ) (approve : Bool) : StockOutcome :=
  let locks := adjustmentLocks db adjustmentId
  acquire isLocked locks
    (match pendingAdjustment? db memory.own adjustmentId with
    | none => .proceed (StockMemory.holding locks memory.finish)
    | some adjustment =>
        if approve then
          if SelfApproval request db adjustment then .rollback .refused
          else
            .proceed (StockMemory.holding locks (memory.to (.approving adjustment)))
        else
          .proceed (StockMemory.holding locks
            { memory.finish with
              own := { memory.own with
                rejected := memory.own.rejected ++ [adjustment.adjustmentId] } }))

/-- The first statement of a task. -/
def firstStatement (task : StockTask) : StockOutcome :=
  match task.action with
  | .addInventory cell warehouseId quantity lotNumber =>
      acquire isLocked [.advisory cell]
        (.proceed (StockMemory.holding [.advisory cell]
          (memory.to (.advised cell warehouseId quantity lotNumber))))
  | .lower lowering cell quantity =>
      lowerStatement request memory isLocked db task lowering cell quantity
  | .inventoryUpdate cell warehouseId targetQuantity =>
      inventoryUpdateStatement request memory isLocked db task cell warehouseId targetQuantity
  | .confirmPick cell picked allocated =>
      performWrite request memory isLocked db (pickWrite cell picked allocated
        (cellRows cell (memory.own.inventory request.now db)))
  | .creditDestination cell warehouseId quantity =>
      selectExisting request memory isLocked db task cell warehouseId quantity none false
  | .importItem cell warehouseId quantity =>
      performWrite request memory isLocked db
        (importItemWrite request.now task.newId cell warehouseId quantity)
  | .review adjustmentId approve =>
      reviewStatement request memory isLocked db adjustmentId approve

def stockStatement : StockOutcome :=
  match memory.todo with
  | [] =>
      .commit (memory.own.commit request.now db) (.done (memory.own.writes.map StockWrite.report))
  | task :: _ =>
      match memory.phase with
      | .next => firstStatement request memory isLocked db task
      | .advised cell warehouseId quantity lotNumber =>
          selectExisting request memory isLocked db task cell warehouseId quantity lotNumber true
      | .approving adjustment =>
          .proceed (memory.to (.ready (approvalWrite request.now task.newId adjustment
            (fetchOne task.position (cellRows ⟨adjustment.itemId, adjustment.binId⟩
              (memory.own.inventory request.now db))))))
      | .ready write => performWrite request memory isLocked db write

end Statements

def stockProgram :
    Program StockDb MovementRequest StockMemory StockLock StockAnswer where
  start := fun request =>
    { todo := request.tasks
      phase := .next
      own := ⟨[], []⟩
      locks := [] }
  holds := fun _ memory lock => memory.locks.contains lock
  statement := stockStatement
  start_holds := fun _ _ => rfl

end SentryWms.Stock

import SentryWms.Relational.Sessions
import SentryWms.System

/-!
# Packing scan by scan

Pack verifications, completions and reverts as transactions beside each other.  A scan
reads the order and its lines without a lock and writes the count it has made of what it
read.  A completion and a revert lock the order first; a revert writes the tasks it
releases and their lines one after another, then the lines it unpacks.  What a
transaction writes is stored when it commits.
-/

namespace SentryWms.Fulfillment

open Relational Sessions SalesOrders

/-! ## What has happened on the lines -/

/-- A scan that reported success, or an order that was unpacked. -/
inductive PackEvent
  | verified (soLineId : ℕ) (quantity : ℤ)
  | unpacked (soId : ℕ)
  deriving DecidableEq, Repr

/-- The units that scans of a line have reported since its order was last unpacked; the
last event is in front. -/
def verifiedSince (soId soLineId : ℕ) : List PackEvent → ℤ
  | [] => 0
  | .verified scanned quantity :: earlier =>
      (if scanned = soLineId then quantity else 0) + verifiedSince soId soLineId earlier
  | .unpacked unpackedId :: earlier =>
      if unpackedId = soId then 0 else verifiedSince soId soLineId earlier

/-- The tables, and what the transactions that have committed reported. -/
structure PackWorld where
  db : Db
  log : List PackEvent

/-! ## The transactions -/

/-- A request with the warehouses its caller may see. -/
inductive PackRequest
  | verify (sees : ℕ → Bool) (request : VerifyItemRequest)
  | complete (ctx : RequestContext) (sees : ℕ → Bool) (soId : ℕ)
  | revert (ctx : RequestContext) (request : RevertStatusRequest)

inductive VerifyPoint
  | ordered
  | matched (line : SalesOrderLine)
  | written (line : SalesOrderLine)

inductive CompletePoint
  | locked (order : SalesOrder)
  | verified (order : SalesOrder)
  | covered (order : SalesOrder)

inductive RevertPoint
  | locked (order : SalesOrder)
  | releasing (order : SalesOrder) (released rest : List PickTask)
  | checked (order : SalesOrder) (released : List PickTask)
  | unpacked (order : SalesOrder) (released : List PickTask) (lineIds : List ℕ)

inductive PackMemory
  | start
  | verifying (point : VerifyPoint)
  | completing (point : CompletePoint)
  | reverting (point : RevertPoint)

inductive PackLock
  | order (soId : ℕ)
  | task (pickTaskId : ℕ)
  | line (soLineId : ℕ)
  deriving DecidableEq, Repr

inductive PackAnswer
  | verified (soLineId : ℕ) (quantity : ℤ)
  | packed
  | reverted (result : RevertedOrder)
  | refused (error : ServiceError)
  deriving DecidableEq, Repr

abbrev PackOutcome := Outcome PackWorld PackMemory PackAnswer

/-- A scan locks the line it has written. -/
def VerifyPoint.holds : VerifyPoint → PackLock → Bool
  | .written line, .line soLineId => line.soLineId = soLineId
  | _, _ => false

/-- A revert locks the order, the tasks it releases, the lines of those released so far and
the lines it has unpacked. -/
def RevertPoint.holds (soId : ℕ) : RevertPoint → PackLock → Bool
  | _, .order lockedId => soId = lockedId
  | .locked _, _ => false
  | .releasing _ released rest, .task pickTaskId =>
      pickTaskId ∈ (released ++ rest).map PickTask.pickTaskId
  | .releasing _ released _, .line soLineId =>
      released.any fun task => task.soLineId? = some soLineId
  | .checked _ released, .task pickTaskId =>
      pickTaskId ∈ released.map PickTask.pickTaskId
  | .checked _ released, .line soLineId =>
      released.any fun task => task.soLineId? = some soLineId
  | .unpacked _ released _, .task pickTaskId =>
      pickTaskId ∈ released.map PickTask.pickTaskId
  | .unpacked _ released lineIds, .line soLineId =>
      (released.any fun task => task.soLineId? = some soLineId) || soLineId ∈ lineIds

def packHolds : PackRequest → PackMemory → PackLock → Bool
  | .verify _ _, .verifying point, lock => point.holds lock
  | .complete _ _ soId, .completing _, .order locked => soId = locked
  | .revert _ request, .reverting point, lock => point.holds request.soId lock
  | _, _, _ => false

/-! ## A scan -/

/-- The order, where the caller may see it. -/
def seenOrder (sees : ℕ → Bool) (soId : ℕ) (db : Db) : Option SalesOrder :=
  (db.salesOrders.find? soId).filter fun order => sees order.warehouseId

def notReady (order : SalesOrder) : ServiceError :=
  .httpError 400 s!"Order is not ready for packing. Current status: {order.status.text}"

def readPickedOrder (sees : ℕ → Bool) (request : VerifyItemRequest) (db : Db) : PackOutcome :=
  match seenOrder sees request.soId db with
  | none => .rollback (.refused (.httpError 404 "Order not found"))
  | some order =>
      if order.status = .soPicked then .proceed (.verifying .ordered)
      else .rollback (.refused (notReady order))

/-- The lines, the match and the guard on the quantity. -/
def matchScan (request : VerifyItemRequest) (db : Db) : PackOutcome :=
  match matchedLine db request.soId request.scannedBarcode with
  | none => .rollback (.refused (.httpError 400
      (if (linesOf db request.soId).any (scannedAs db request.scannedBarcode) then
        "Item already fully verified on this order"
      else "Item not found on this order")))
  | some line =>
      let remaining := line.quantityPicked - line.quantityPacked
      if request.quantity ≤ remaining then .proceed (.verifying (.matched line))
      else .rollback (.refused (.httpError 400
        s!"Over-pack: only {remaining} items remaining to verify"))

theorem scanned_key (request : VerifyItemRequest) (line row : SalesOrderLine) :
    (setPacked (line.quantityPacked + request.quantity) row).soLineId = row.soLineId :=
  rfl

/-- What a scan leaves when it commits: the count made of the line as it was read. -/
def storeScan (request : VerifyItemRequest) (line : SalesOrderLine) (world : PackWorld) :
    PackWorld where
  db := updateLine (some line.soLineId)
    (setPacked (line.quantityPacked + request.quantity)) world.db (scanned_key request line)
  log := .verified line.soLineId request.quantity :: world.log

/-- The statements of `verify_item`. -/
def verifyStatement (sees : ℕ → Bool) (request : VerifyItemRequest) (memory : PackMemory)
    (isLocked : PackLock → Bool) (world : PackWorld) : PackOutcome :=
  match memory with
  | .start => readPickedOrder sees request world.db
  | .verifying .ordered => matchScan request world.db
  | .verifying (.matched line) =>
      if isLocked (.line line.soLineId) then .wait
      else .proceed (.verifying (.written line))
  | .verifying (.written line) =>
      .commit (storeScan request line world) (.verified line.soLineId request.quantity)
  | _ => .wait

/-! ## A completion -/

/-- `SELECT ... FOR UPDATE` of the order. -/
def lockPickedOrder (sees : ℕ → Bool) (soId : ℕ) (isLocked : PackLock → Bool) (db : Db) :
    PackOutcome :=
  match seenOrder sees soId db with
  | none => .rollback (.refused (.httpError 404 "Order not found"))
  | some order =>
      if isLocked (.order soId) then .wait
      else if order.status = .soPicked then .proceed (.completing (.locked order))
      else .rollback (.refused (notReady order))

def countUnverified (soId : ℕ) (order : SalesOrder) (db : Db) : PackOutcome :=
  let unverified := (unverifiedLines db soId).length
  if unverified = 0 then .proceed (.completing (.verified order))
  else .rollback (.refused (.httpError 400
    s!"Cannot complete packing - {unverified} items not yet verified"))

def checkCovered (soId : ℕ) (order : SalesOrder) (db : Db) : PackOutcome :=
  let short := silentlyShort db soId
  if short = [] then .proceed (.completing (.covered order))
  else .rollback (.refused (.httpError 400 (underPickedText db "complete packing" short)))

/-- What a completion leaves when it commits. -/
def storePacked (ctx : RequestContext) (soId : ℕ) (order : SalesOrder)
    (world : PackWorld) : PackWorld :=
  { world with
    db := emitEvent ctx .packConfirmed soId order.warehouseId
      (setOrderStatus soId .soPacked world.db) }

/-- The statements of `complete_packing`. -/
def completeStatement (ctx : RequestContext) (sees : ℕ → Bool) (soId : ℕ)
    (memory : PackMemory) (isLocked : PackLock → Bool) (world : PackWorld) : PackOutcome :=
  match memory with
  | .start => lockPickedOrder sees soId isLocked world.db
  | .completing (.locked order) => countUnverified soId order world.db
  | .completing (.verified order) => checkCovered soId order world.db
  | .completing (.covered order) => .commit (storePacked ctx soId order world) .packed
  | _ => .wait

/-! ## A revert -/

/-- The guards on the locked order. -/
def checkRevert (newIdx : ℕ) (order : SalesOrder) : Except ServiceError Unit := do
  require (orderTypeAllowsFulfillmentOps order.orderType)
    (.revertNotAllowed "cannot release picked quantity on a return SO" "not_eligible")
  require (order.status ≠ .soCancelled)
    (.revertNotAllowed
      "cannot revert a cancelled order; reopen via the cancel-undo workflow" "cancelled")
  let curIdx ← orThrow (statusOrder order.status)
    (.revertNotAllowed "target status must not be higher than current status" "not_backward")
  require (newIdx ≤ curIdx)
    (.revertNotAllowed "target status must not be higher than current status" "not_backward")

def lockReverted (request : RevertStatusRequest) (isLocked : PackLock → Bool) (db : Db) :
    PackOutcome :=
  match statusOrder request.newStatus with
  | none => .rollback (.refused (unknownTarget request.newStatus))
  | some newIdx =>
      match db.salesOrders.find? request.soId with
      | none => .rollback (.refused
          (.revertNotAllowed "sales order not found" "not_found"))
      | some order =>
          if isLocked (.order request.soId) then .wait
          else
            match checkRevert newIdx order with
            | .error error => .rollback (.refused error)
            | .ok () => .proceed (.reverting (.locked order))

/-- `SELECT ... FROM pick_tasks ... FOR UPDATE`, and the guards on what it finds. -/
def lockTasks (request : RevertStatusRequest) (order : SalesOrder)
    (isLocked : PackLock → Bool) (db : Db) : PackOutcome :=
  let tasks := namedTasks db request.soId request.releasePickTaskIds
  if tasks.any fun task => isLocked (.task task.pickTaskId) then .wait
  else if ¬ ∀ pickTaskId ∈ request.releasePickTaskIds,
      pickTaskId ∈ tasks.map PickTask.pickTaskId then
    .rollback (.refused (tasksMissing request.releasePickTaskIds tasks))
  else if ¬ ∀ task ∈ tasks, task.status = .taskPicked then
    .rollback (.refused (tasksNotPicked tasks))
  else .proceed (.reverting (.releasing order [] tasks))

/-- The line of the next task is written; after the last one the units still picked are
counted as this transaction has left them. -/
def releaseNext (ctx : RequestContext) (request : RevertStatusRequest) (order : SalesOrder)
    (released rest : List PickTask) (isLocked : PackLock → Bool) (db : Db) : PackOutcome :=
  match rest with
  | task :: rest =>
      if task.soLineId?.any fun soLineId => isLocked (.line soLineId) then .wait
      else .proceed (.reverting (.releasing order (released ++ [task]) rest))
  | [] =>
      let left := run (releasePickedTask ctx order.warehouseId) db released
      if (statusOrder request.newStatus).any (· < 1) ∧ 0 < pickedUnits left request.soId then
        .rollback (.refused (.revertNotAllowed
          "cannot demote below PICKED while quantity_picked remains; release the remaining pick_tasks or pick a higher target status"
          "picked_qty_remaining"))
      else .proceed (.reverting (.checked order released))

/-- From `PACKED` or above to below it. -/
def needUnpack (request : RevertStatusRequest) (order : SalesOrder) : Bool :=
  (statusOrder order.status).any (2 ≤ ·) && (statusOrder request.newStatus).any (· < 2)

def needUnship (request : RevertStatusRequest) (order : SalesOrder) : Bool :=
  order.status = .soShipped ∧ request.newStatus ≠ .soShipped

/-- The lines of an order with units packed. -/
def packedLines (db : Db) (soId : ℕ) : List SalesOrderLine :=
  (linesOf db soId).filter fun line => 0 < line.quantityPacked

/-- `UPDATE sales_order_lines SET quantity_packed = 0`: it waits for the lines it finds. -/
def unpackFound (request : RevertStatusRequest) (order : SalesOrder)
    (released : List PickTask) (isLocked : PackLock → Bool) (db : Db) : PackOutcome :=
  if needUnpack request order then
    let lines := packedLines db request.soId
    if lines.any fun line => isLocked (.line line.soLineId) then .wait
    else .proceed (.reverting (.unpacked order released (lines.map SalesOrderLine.soLineId)))
  else .proceed (.reverting (.unpacked order released []))

/-- The lines of an order that a revert has found packed are packed no longer. -/
def unpackNamed (soId : ℕ) (lineIds : List ℕ) (db : Db) : Db :=
  { db with
    salesOrderLines := db.salesOrderLines.update
      (fun line => line.soId = soId ∧ line.soLineId ∈ lineIds)
      fun line => { line with quantityPacked := 0 } }

/-- What a revert leaves when it commits. -/
def storeRevert (ctx : RequestContext) (request : RevertStatusRequest) (order : SalesOrder)
    (released : List PickTask) (lineIds : List ℕ) (world : PackWorld) : PackWorld where
  db :=
    let unpacked := unpackNamed request.soId lineIds
      (run (releasePickedTask ctx order.warehouseId) world.db released)
    setOrderStatus request.soId request.newStatus
      (if needUnship request order then clearShipment request.soId unpacked else unpacked)
  log :=
    if needUnpack request order then .unpacked request.soId :: world.log else world.log

/-- The statements of `revert_sales_order_status`. -/
def revertStatement (ctx : RequestContext) (request : RevertStatusRequest)
    (memory : PackMemory) (isLocked : PackLock → Bool) (world : PackWorld) : PackOutcome :=
  match memory with
  | .start => lockReverted request isLocked world.db
  | .reverting (.locked order) => lockTasks request order isLocked world.db
  | .reverting (.releasing order released rest) =>
      releaseNext ctx request order released rest isLocked world.db
  | .reverting (.checked order released) =>
      unpackFound request order released isLocked world.db
  | .reverting (.unpacked order released lineIds) =>
      .commit (storeRevert ctx request order released lineIds world)
        (.reverted
          { fromStatus := order.status
            toStatus := request.newStatus
            releasedPickTasks :=
              (released.filter fun task => 0 < task.quantityPicked).map PickTask.pickTaskId
            unpacked := needUnpack request order
            unshipped := needUnship request order })
  | _ => .wait

/-! ## The program -/

def packStatement : PackRequest → PackMemory → (PackLock → Bool) → PackWorld → PackOutcome
  | .verify sees request => verifyStatement sees request
  | .complete ctx sees soId => completeStatement ctx sees soId
  | .revert ctx request => revertStatement ctx request

/-- `verify_item`, `complete_packing` and `revert_sales_order_status`, statement by
statement. -/
def packProgram : Program PackWorld PackRequest PackMemory PackLock PackAnswer where
  start := fun _ => .start
  holds := packHolds
  statement := packStatement
  start_holds := by
    intro request lock
    cases request <;> rfl

/-! ## What a statement can do -/

/-- The outcomes of a statement. -/
inductive PackStep (isLocked : PackLock → Bool) (world : PackWorld) :
    PackRequest → PackMemory → PackOutcome → Prop
  | waits (request : PackRequest) (memory : PackMemory) :
      PackStep isLocked world request memory .wait
  | refuses (request : PackRequest) (memory : PackMemory) (error : ServiceError) :
      PackStep isLocked world request memory (.rollback (.refused error))
  | finds (sees : ℕ → Bool) (request : VerifyItemRequest) :
      PackStep isLocked world (.verify sees request) .start (.proceed (.verifying .ordered))
  | matched (sees : ℕ → Bool) (request : VerifyItemRequest) (line : SalesOrderLine) :
      PackStep isLocked world (.verify sees request) (.verifying .ordered)
        (.proceed (.verifying (.matched line)))
  | writes (sees : ℕ → Bool) (request : VerifyItemRequest) (line : SalesOrderLine)
      (hfree : isLocked (.line line.soLineId) = false) :
      PackStep isLocked world (.verify sees request) (.verifying (.matched line))
        (.proceed (.verifying (.written line)))
  | scans (sees : ℕ → Bool) (request : VerifyItemRequest) (line : SalesOrderLine) :
      PackStep isLocked world (.verify sees request) (.verifying (.written line))
        (.commit (storeScan request line world) (.verified line.soLineId request.quantity))
  | locks (ctx : RequestContext) (sees : ℕ → Bool) (soId : ℕ) (order : SalesOrder)
      (hfree : isLocked (.order soId) = false) :
      PackStep isLocked world (.complete ctx sees soId) .start
        (.proceed (.completing (.locked order)))
  | verifies (ctx : RequestContext) (sees : ℕ → Bool) (soId : ℕ) (order : SalesOrder)
      (hverified : unverifiedLines world.db soId = []) :
      PackStep isLocked world (.complete ctx sees soId) (.completing (.locked order))
        (.proceed (.completing (.verified order)))
  | covers (ctx : RequestContext) (sees : ℕ → Bool) (soId : ℕ) (order : SalesOrder) :
      PackStep isLocked world (.complete ctx sees soId) (.completing (.verified order))
        (.proceed (.completing (.covered order)))
  | packs (ctx : RequestContext) (sees : ℕ → Bool) (soId : ℕ) (order : SalesOrder) :
      PackStep isLocked world (.complete ctx sees soId) (.completing (.covered order))
        (.commit (storePacked ctx soId order world) .packed)
  | locksReverted (ctx : RequestContext) (request : RevertStatusRequest)
      (order : SalesOrder) (hfree : isLocked (.order request.soId) = false) :
      PackStep isLocked world (.revert ctx request) .start (.proceed (.reverting (.locked order)))
  | locksTasks (ctx : RequestContext) (request : RevertStatusRequest) (order : SalesOrder)
      (tasks : List PickTask) (hstored : ∀ task ∈ tasks, task ∈ world.db.pickTasks.rows)
      (hfree : ∀ task ∈ tasks, isLocked (.task task.pickTaskId) = false) :
      PackStep isLocked world (.revert ctx request) (.reverting (.locked order))
        (.proceed (.reverting (.releasing order [] tasks)))
  | releases (ctx : RequestContext) (request : RevertStatusRequest) (order : SalesOrder)
      (released : List PickTask) (task : PickTask) (rest : List PickTask)
      (hfree : ∀ soLineId, task.soLineId? = some soLineId → isLocked (.line soLineId) = false) :
      PackStep isLocked world (.revert ctx request)
        (.reverting (.releasing order released (task :: rest)))
        (.proceed (.reverting (.releasing order (released ++ [task]) rest)))
  | counts (ctx : RequestContext) (request : RevertStatusRequest) (order : SalesOrder)
      (released : List PickTask) :
      PackStep isLocked world (.revert ctx request) (.reverting (.releasing order released []))
        (.proceed (.reverting (.checked order released)))
  | unpacks (ctx : RequestContext) (request : RevertStatusRequest) (order : SalesOrder)
      (released : List PickTask) (lineIds : List ℕ)
      (hneed : needUnpack request order = false → lineIds = [])
      (hfree : ∀ soLineId ∈ lineIds, isLocked (.line soLineId) = false) :
      PackStep isLocked world (.revert ctx request) (.reverting (.checked order released))
        (.proceed (.reverting (.unpacked order released lineIds)))
  | reverts (ctx : RequestContext) (request : RevertStatusRequest) (order : SalesOrder)
      (released : List PickTask) (lineIds : List ℕ) (answer : PackAnswer) :
      PackStep isLocked world (.revert ctx request) (.reverting (.unpacked order released lineIds))
        (.commit (storeRevert ctx request order released lineIds world) answer)

section Statements

variable {isLocked : PackLock → Bool} {world : PackWorld}

theorem verify_step (sees : ℕ → Bool) (request : VerifyItemRequest) (memory : PackMemory) :
    PackStep isLocked world (.verify sees request) memory
      (verifyStatement sees request memory isLocked world) := by
  cases memory with
  | start =>
      rw [verifyStatement, readPickedOrder]
      split
      · exact .refuses ..
      · split
        · exact .finds ..
        · exact .refuses ..
  | verifying point =>
      cases point with
      | ordered =>
          rw [verifyStatement, matchScan]
          split
          · exact .refuses ..
          · dsimp only
            split
            · exact .matched ..
            · exact .refuses ..
      | matched line =>
          rw [verifyStatement]
          split
          · exact .waits ..
          · rename_i hfree
            exact .writes _ _ _ (by simpa using hfree)
      | written line => exact .scans ..
  | completing | reverting => exact .waits ..

theorem complete_step (ctx : RequestContext) (sees : ℕ → Bool) (soId : ℕ) (memory : PackMemory) :
    PackStep isLocked world (.complete ctx sees soId) memory
      (completeStatement ctx sees soId memory isLocked world) := by
  cases memory with
  | start =>
      rw [completeStatement, lockPickedOrder]
      split
      · exact .refuses ..
      · split
        · exact .waits ..
        · rename_i hfree
          split
          · exact .locks _ _ _ _ (by simpa using hfree)
          · exact .refuses ..
  | verifying point => exact .waits ..
  | completing point =>
      cases point with
      | locked order =>
          rw [completeStatement, countUnverified]
          split
          · rename_i hnone
            exact .verifies _ _ _ _ (List.length_eq_zero_iff.mp hnone)
          · exact .refuses ..
      | verified order =>
          rw [completeStatement, checkCovered]
          split
          · exact .covers ..
          · exact .refuses ..
      | covered order => exact .packs ..
  | reverting point => exact .waits ..

theorem revert_step (ctx : RequestContext) (request : RevertStatusRequest) (memory : PackMemory) :
    PackStep isLocked world (.revert ctx request) memory
      (revertStatement ctx request memory isLocked world) := by
  cases memory with
  | start =>
      rw [revertStatement, lockReverted]
      split
      · exact .refuses ..
      · split
        · exact .refuses ..
        · split
          · exact .waits ..
          · rename_i hfree
            split
            · exact .refuses ..
            · exact .locksReverted _ _ _ (by simpa using hfree)
  | verifying | completing => exact .waits ..
  | reverting point =>
      cases point with
      | locked order =>
          rw [revertStatement, lockTasks]
          split
          · exact .waits ..
          · rename_i hfree
            split
            · exact .refuses ..
            · split
              · exact .refuses ..
              · refine .locksTasks _ _ _ _ ?_ ?_
                · intro task htask
                  exact List.mem_of_mem_filter htask
                · simpa using hfree
      | releasing order released rest =>
          cases rest with
          | nil =>
              rw [revertStatement, releaseNext]
              split
              · exact .refuses ..
              · exact .counts ..
          | cons task rest =>
              rw [revertStatement, releaseNext]
              split
              · exact .waits ..
              · rename_i hfree
                refine .releases _ _ _ _ _ _ ?_
                intro soLineId hline
                simpa [hline] using hfree
      | checked order released =>
          rw [revertStatement, unpackFound]
          split
          · rename_i hneed
            dsimp only
            split
            · exact .waits ..
            · rename_i hfree
              refine .unpacks _ _ _ _ _ ?_ ?_
              · intro hnot
                rw [hneed] at hnot
                cases hnot
              · simpa using hfree
          · exact .unpacks _ _ _ _ _ (fun _ => rfl) nofun
      | unpacked order released lineIds => exact .reverts ..

theorem pack_step (request : PackRequest) (memory : PackMemory) :
    PackStep isLocked world request memory (packStatement request memory isLocked world) := by
  cases request with
  | verify sees request => exact verify_step sees request memory
  | complete ctx sees soId => exact complete_step ctx sees soId memory
  | revert ctx request => exact revert_step ctx request memory

theorem pack_step_of {request : PackRequest} {memory : PackMemory} {outcome : PackOutcome}
    (houtcome : packStatement request memory isLocked world = outcome) :
    PackStep isLocked world request memory outcome :=
  houtcome ▸ pack_step request memory

end Statements

end SentryWms.Fulfillment

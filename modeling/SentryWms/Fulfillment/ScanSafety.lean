import Mathlib.Data.Fintype.Basic
import SentryWms.Fulfillment.Scans
import SentryWms.History.Footprint

/-!
# The counts of packed units

While every scan commits a count that is still good, and every revert leaves as many units
picked as it leaves packed, the count of a line is what scans have reported of it since its
order was last unpacked, and an order becomes `PACKED` only in full.  Nothing else in the
program keeps the counts: a scan can write over another one, or come late.
-/

namespace SentryWms.Fulfillment

open Relational Sessions SalesOrders

/-! ## The lines a revert leaves -/

/-- What the releases of tasks make of a line. -/
def releasedLine (released : List PickTask) (line : SalesOrderLine) : SalesOrderLine :=
  released.foldl (fun line task =>
    if task.soLineId? = some line.soLineId then
      line.undoTask task.quantityPicked task.quantityToPick
    else line) line

/-- The units of the released tasks of a line. -/
def releasedUnits (released : List PickTask) (soLineId : ℕ) : ℤ :=
  ((released.filter fun task => task.soLineId? = some soLineId).map PickTask.quantityPicked).sum

theorem releasedUnits_cons (task : PickTask) (rest : List PickTask) (soLineId : ℕ) :
    releasedUnits (task :: rest) soLineId =
      (if task.soLineId? = some soLineId then task.quantityPicked else 0) +
        releasedUnits rest soLineId := by
  by_cases hhere : task.soLineId? = some soLineId
  · simp [releasedUnits, hhere]
  · simp [releasedUnits, hhere]

theorem releasedUnits_nonneg {released : List PickTask}
    (hunits : ∀ task ∈ released, 0 ≤ task.quantityPicked) (soLineId : ℕ) :
    0 ≤ releasedUnits released soLineId := by
  apply List.sum_nonneg
  intro quantity hquantity
  obtain ⟨task, hmem, rfl⟩ := List.mem_map.mp hquantity
  exact hunits task (List.mem_of_mem_filter hmem)

/-- What a revert makes of a line. -/
def revertedLine (soId : ℕ) (released : List PickTask) (lineIds : List ℕ)
    (line : SalesOrderLine) : SalesOrderLine :=
  let left := releasedLine released line
  if left.soId = soId ∧ left.soLineId ∈ lineIds then { left with quantityPacked := 0 }
  else left

section Lines

variable {ctx : RequestContext} {warehouseId soId : ℕ} {released : List PickTask}
  {lineIds : List ℕ} {line : SalesOrderLine}

theorem restorePicked_lines (task : PickTask) (db : Db) :
    (Picking.restorePicked ctx warehouseId task db).salesOrderLines =
      db.salesOrderLines := by
  unfold Picking.restorePicked Inventory.addInventory
  split
  · split <;> rfl
  · rfl

theorem releasePickedTask_rows (task : PickTask) (db : Db) :
    (releasePickedTask ctx warehouseId db task).salesOrderLines.rows =
      db.salesOrderLines.rows.map (releasedLine [task]) := by
  change (updateLine task.soLineId? _ _ _).salesOrderLines.rows = _
  cases hline : task.soLineId? with
  | none =>
      rw [updateLine, restorePicked_lines]
      have hsame : ∀ line : SalesOrderLine, releasedLine [task] line = line := by
        intro line
        simp [releasedLine, hline]
      rw [List.map_congr_left fun line _ => hsame line, List.map_id']
  | some soLineId =>
      rw [updateLine_rows, restorePicked_lines]
      apply List.map_congr_left
      intro line _
      simp [releasedLine, hline, eq_comm]

theorem run_releasePickedTask_rows (released : List PickTask) (db : Db) :
    (run (releasePickedTask ctx warehouseId) db released).salesOrderLines.rows =
      db.salesOrderLines.rows.map (releasedLine released) := by
  induction released generalizing db with
  | nil => exact (List.map_id' _).symm
  | cons task rest ih =>
      calc
        (run (releasePickedTask ctx warehouseId) db (task :: rest)).salesOrderLines.rows =
            (releasePickedTask ctx warehouseId db task).salesOrderLines.rows.map
              (releasedLine rest) := ih _
        _ = db.salesOrderLines.rows.map (releasedLine (task :: rest)) := by
            rw [releasePickedTask_rows, List.map_map]
            rfl

/-- A release takes picked units of a line, none below zero, and leaves what is packed. -/
theorem releasedLine_spec (hunits : ∀ task ∈ released, 0 ≤ task.quantityPicked)
    (hpicked : 0 ≤ line.quantityPicked) :
    (releasedLine released line).soLineId = line.soLineId ∧
      (releasedLine released line).soId = line.soId ∧
      (releasedLine released line).quantityPacked = line.quantityPacked ∧
      (releasedLine released line).quantityPicked =
        max 0 (line.quantityPicked - releasedUnits released line.soLineId) := by
  induction released generalizing line with
  | nil => exact ⟨rfl, rfl, rfl, by simpa [releasedUnits, releasedLine] using hpicked⟩
  | cons task rest ih =>
      have hrest : ∀ later ∈ rest, 0 ≤ later.quantityPicked :=
        fun later hlater => hunits later (List.mem_cons_of_mem _ hlater)
      have hunit := hunits task List.mem_cons_self
      have hlater := releasedUnits_nonneg hrest line.soLineId
      rw [releasedLine, List.foldl_cons, ← releasedLine, releasedUnits_cons]
      by_cases hhere : task.soLineId? = some line.soLineId
      · rw [if_pos hhere, if_pos hhere]
        have hundone : 0 ≤
            (line.undoTask task.quantityPicked task.quantityToPick).quantityPicked :=
          le_max_left 0 _
        obtain ⟨hkey, hsoId, hpacked, hleft⟩ := ih hrest hundone
        refine ⟨hkey, hsoId, hpacked, ?_⟩
        rw [hleft]
        change max 0 (max 0 (line.quantityPicked - task.quantityPicked) -
          releasedUnits rest line.soLineId) = _
        omega
      · rw [if_neg hhere, if_neg hhere, zero_add]
        exact ih hrest hpicked

theorem revertedLine_spec (hunits : ∀ task ∈ released, 0 ≤ task.quantityPicked)
    (hpicked : 0 ≤ line.quantityPicked) :
    (revertedLine soId released lineIds line).soLineId = line.soLineId ∧
      (revertedLine soId released lineIds line).soId = line.soId ∧
      (revertedLine soId released lineIds line).quantityPacked =
        (if line.soId = soId ∧ line.soLineId ∈ lineIds then 0 else line.quantityPacked) ∧
      (revertedLine soId released lineIds line).quantityPicked =
        max 0 (line.quantityPicked - releasedUnits released line.soLineId) := by
  obtain ⟨hkey, hsoId, hpacked, hleft⟩ := releasedLine_spec hunits hpicked
  simp only [revertedLine, hsoId, hkey]
  split
  · exact ⟨rfl, rfl, rfl, hleft⟩
  · exact ⟨hkey, hsoId, hpacked, hleft⟩

theorem storeRevert_rows (request : RevertStatusRequest) (order : SalesOrder) (world : PackWorld) :
    (storeRevert ctx request order released lineIds world).db.salesOrderLines.rows =
      world.db.salesOrderLines.rows.map (revertedLine request.soId released lineIds) := by
  have hunpacked : (unpackNamed request.soId lineIds
      (run (releasePickedTask ctx order.warehouseId) world.db released)).salesOrderLines.rows =
        world.db.salesOrderLines.rows.map (revertedLine request.soId released lineIds) := by
    change List.map _ (run (releasePickedTask ctx order.warehouseId) world.db
      released).salesOrderLines.rows = _
    rw [run_releasePickedTask_rows, List.map_map]
    apply List.map_congr_left
    intro line _
    simp [revertedLine]
  rw [← hunpacked]
  simp only [storeRevert, setOrderStatus]
  split <;> rfl

end Lines

/-! ## What is to be kept -/

/-- The count of every line is what scans have reported since its order was last unpacked,
and no more than is picked. -/
structure PackKept (world : PackWorld) : Prop where
  counted : ∀ line ∈ world.db.salesOrderLines.rows,
    line.quantityPacked = verifiedSince line.soId line.soLineId world.log
  within : ∀ line ∈ world.db.salesOrderLines.rows, line.quantityPacked ≤ line.quantityPicked

/-- No line and no task has fewer than no units. -/
structure NonnegUnits (db : Db) : Prop where
  packed : ∀ line ∈ db.salesOrderLines.rows, 0 ≤ line.quantityPacked
  picked : ∀ task ∈ db.pickTasks.rows, 0 ≤ task.quantityPicked

def orderPacked (db : Db) (soId : ℕ) : Bool :=
  (db.salesOrders.find? soId).any fun order => order.status = .soPacked

/-- An order that becomes `PACKED` has every line packed as far as it is picked. -/
def PacksFull (before after : PackWorld) : Prop :=
  ∀ soId, orderPacked before.db soId = false → orderPacked after.db soId = true →
    ∀ line ∈ linesOf after.db soId, line.quantityPacked = line.quantityPicked

/-- The line is packed as far as it was when it was read, and the units scanned are still
picked. -/
def ScanFits (request : VerifyItemRequest) (line : SalesOrderLine) (db : Db) : Prop :=
  ∀ now ∈ db.salesOrderLines.rows, now.soLineId = line.soLineId →
    now.quantityPacked = line.quantityPacked ∧
      now.quantityPacked + request.quantity ≤ now.quantityPicked

/-- Every line that is not unpacked keeps as many units picked as it has packed, every one
that is has been found, and an order that goes back to `PACKED` is packed in full. -/
structure RevertFits (request : RevertStatusRequest) (order : SalesOrder)
    (released : List PickTask) (lineIds : List ℕ) (db : Db) : Prop where
  lines : ∀ line ∈ db.salesOrderLines.rows,
    if needUnpack request order = true ∧ line.soId = request.soId then
      line.quantityPacked = 0 ∨ line.soLineId ∈ lineIds
    else
      line.quantityPacked = 0 ∨
        line.quantityPacked + releasedUnits released line.soLineId ≤ line.quantityPicked
  full : request.newStatus = .soPacked → orderPacked db request.soId = false →
    ∀ line ∈ linesOf db request.soId, line.quantityPacked =
      max 0 (line.quantityPicked - releasedUnits released line.soLineId)

/-- A scan commits while its count is still good, and a revert while it fits. -/
def PackAllowed : PackRequest → PackMemory → PackWorld → Prop
  | .verify _ request, .verifying (.written line), world => ScanFits request line world.db
  | .revert _ request, .reverting (.unpacked order released lineIds), world =>
      RevertFits request order released lineIds world.db
  | _, _, _ => True

/-! ## What a transaction knows -/

/-- The tasks a revert has locked. -/
def RevertPoint.tasks : RevertPoint → List PickTask
  | .locked _ => []
  | .releasing _ released rest => released ++ rest
  | .checked _ released => released
  | .unpacked _ released _ => released

/-- A completion that has counted knows the lines are verified; a revert releases no fewer
than no units, and has unpacked nothing where it need not. -/
def KnowsPack : PackRequest → PackMemory → PackWorld → Prop
  | .complete _ _ soId, .completing (.verified _), world =>
      ∀ line ∈ linesOf world.db soId, line.quantityPicked ≤ line.quantityPacked
  | .complete _ _ soId, .completing (.covered _), world =>
      ∀ line ∈ linesOf world.db soId, line.quantityPicked ≤ line.quantityPacked
  | .revert _ request, .reverting point, _ =>
      (∀ task ∈ point.tasks, 0 ≤ task.quantityPicked) ∧
        match point with
        | .unpacked order _ lineIds => needUnpack request order = false → lineIds = []
        | _ => True
  | _, _, _ => True

variable {db : Db} {soId warehouseId : ℕ} {status : SalesOrderStatus}

/-! ## What a commit keeps -/

section Commits

variable {world : PackWorld}

theorem orderPacked_setOrderStatus {other : ℕ} (hbefore : orderPacked db other = false)
    (hafter : orderPacked (setOrderStatus soId status db) other = true) :
    other = soId ∧ status = .soPacked := by
  rw [orderPacked, setOrderStatus, Table.find?_updateKey] at hafter
  split at hafter
  · rename_i hhere
    cases hfound : db.salesOrders.find? other with
    | none =>
        rw [hfound] at hafter
        cases hafter
    | some order =>
        rw [hfound] at hafter
        exact ⟨hhere, by simpa using hafter⟩
  · rw [orderPacked, hafter] at hbefore
    cases hbefore

/-! ### Scans -/

section Scan

variable {request : VerifyItemRequest} {line : SalesOrderLine}

theorem mem_storeScan {after : SalesOrderLine}
    (hafter : after ∈ (storeScan request line world).db.salesOrderLines.rows) :
    ∃ now ∈ world.db.salesOrderLines.rows, after = if now.soLineId = line.soLineId then
      setPacked (line.quantityPacked + request.quantity) now else now := by
  rw [storeScan, updateLine_rows] at hafter
  obtain ⟨now, hnow, rfl⟩ := List.mem_map.mp hafter
  exact ⟨now, hnow, rfl⟩

theorem PackKept.storeScan (hkept : PackKept world) (hfits : ScanFits request line world.db) :
    PackKept (storeScan request line world) := by
  constructor
  · intro after hafter
    obtain ⟨now, hnow, rfl⟩ := mem_storeScan hafter
    have hcounted := hkept.counted now hnow
    split
    · rename_i hhere
      change line.quantityPacked + request.quantity =
        (if line.soLineId = now.soLineId then request.quantity else 0) +
          verifiedSince now.soId now.soLineId world.log
      rw [if_pos hhere.symm, ← hcounted, (hfits now hnow hhere).1, add_comm]
    · rename_i hother
      change now.quantityPacked =
        (if line.soLineId = now.soLineId then request.quantity else 0) +
          verifiedSince now.soId now.soLineId world.log
      rw [if_neg (Ne.symm hother), zero_add]
      exact hcounted
  · intro after hafter
    obtain ⟨now, hnow, rfl⟩ := mem_storeScan hafter
    split
    · rename_i hhere
      obtain ⟨hsame, hleft⟩ := hfits now hnow hhere
      rw [hsame] at hleft
      exact hleft
    · exact hkept.within now hnow

theorem NonnegUnits.storeScan (hunits : NonnegUnits world.db)
    (hfits : ScanFits request line world.db) :
    NonnegUnits (storeScan request line world).db := by
  refine ⟨?_, hunits.picked⟩
  intro after hafter
  obtain ⟨now, hnow, rfl⟩ := mem_storeScan hafter
  have hnonneg := hunits.packed now hnow
  split
  · rename_i hhere
    have hsame := (hfits now hnow hhere).1
    have hpositive := request.quantity_pos
    change 0 ≤ line.quantityPacked + request.quantity
    omega
  · exact hnonneg

/-- A scan that fits counts on no line that is verified. -/
theorem verified_storeScan (hfits : ScanFits request line world.db)
    (hverified : ∀ now ∈ linesOf world.db soId, now.quantityPicked ≤ now.quantityPacked) :
    ∀ after ∈ linesOf (SentryWms.Fulfillment.storeScan request line world).db soId,
      after.quantityPicked ≤ after.quantityPacked := by
  intro after hafter
  obtain ⟨hmem, hsoId⟩ := mem_linesOf.mp hafter
  obtain ⟨now, hnow, rfl⟩ := mem_storeScan hmem
  split at hsoId
  · rename_i hhere
    obtain ⟨-, hleft⟩ := hfits now hnow hhere
    have hfull := hverified now (mem_linesOf.mpr ⟨hnow, hsoId⟩)
    have hpositive := request.quantity_pos
    omega
  · rename_i hother
    rw [if_neg hother]
    exact hverified now (mem_linesOf.mpr ⟨hnow, hsoId⟩)

end Scan

/-! ### Completions -/

section Complete

variable {ctx : RequestContext} {soId : ℕ} {order : SalesOrder}

theorem storePacked_lines :
    (storePacked ctx soId order world).db.salesOrderLines = world.db.salesOrderLines := by
  unfold storePacked emitEvent
  split <;> rfl

theorem storePacked_tasks :
    (storePacked ctx soId order world).db.pickTasks = world.db.pickTasks := by
  unfold storePacked emitEvent
  split <;> rfl

theorem storePacked_orders :
    (storePacked ctx soId order world).db.salesOrders =
      (setOrderStatus soId .soPacked world.db).salesOrders := by
  unfold storePacked emitEvent
  split <;> rfl

theorem PackKept.storePacked (hkept : PackKept world) :
    PackKept (storePacked ctx soId order world) := by
  constructor
  · rw [storePacked_lines]
    exact hkept.counted
  · rw [storePacked_lines]
    exact hkept.within

theorem NonnegUnits.storePacked (hunits : NonnegUnits world.db) :
    NonnegUnits (storePacked ctx soId order world).db := by
  constructor
  · rw [storePacked_lines]
    exact hunits.packed
  · rw [storePacked_tasks]
    exact hunits.picked

theorem packsFull_storePacked (hkept : PackKept world)
    (hverified : ∀ line ∈ linesOf world.db soId, line.quantityPicked ≤ line.quantityPacked) :
    PacksFull world (SentryWms.Fulfillment.storePacked ctx soId order world) := by
  intro other hbefore hafter line hline
  rw [orderPacked, storePacked_orders, ← orderPacked] at hafter
  obtain ⟨rfl, -⟩ := orderPacked_setOrderStatus hbefore hafter
  rw [linesOf, storePacked_lines, ← linesOf] at hline
  exact le_antisymm (hkept.within line (mem_linesOf.mp hline).1) (hverified line hline)

end Complete

/-! ### Reverts -/

section Revert

variable {ctx : RequestContext} {request : RevertStatusRequest} {order : SalesOrder}
  {released : List PickTask} {lineIds : List ℕ}

/-- A task after releases has the units of one before. -/
theorem run_releasePickedTask_tasks (db : Db) :
    ∀ task ∈ (run (releasePickedTask ctx warehouseId) db released).pickTasks.rows,
      ∃ old ∈ db.pickTasks.rows, task.quantityPicked = old.quantityPicked := by
  induction released generalizing db with
  | nil => exact fun task htask => ⟨task, htask, rfl⟩
  | cons first rest ih =>
      intro task htask
      obtain ⟨later, hlater, hunits⟩ := ih _ task htask
      obtain ⟨old, hold, rfl⟩ := List.mem_map.mp hlater
      have htasks : (updateLine first.soLineId?
          (SalesOrderLine.undoTask first.quantityPicked first.quantityToPick)
            (Picking.restorePicked ctx warehouseId first db)).pickTasks = db.pickTasks := by
        rw [updateLine_pickTasks]
        exact (History.sameTables_restorePicked ctx warehouseId first db).tasks
      rw [htasks] at hold
      refine ⟨old, hold, ?_⟩
      rw [hunits]
      split <;> rfl

theorem run_releasePickedTask_orders (db : Db) :
    (run (releasePickedTask ctx warehouseId) db released).salesOrders = db.salesOrders := by
  apply run_unchanged
  intro state task
  change (updateLine task.soLineId?
    (SalesOrderLine.undoTask task.quantityPicked task.quantityToPick)
      (Picking.restorePicked ctx warehouseId task state)).salesOrders = _
  rw [updateLine_salesOrders]
  unfold Picking.restorePicked Inventory.addInventory
  split
  · split <;> rfl
  · rfl

/-- Setting a status leaves the same orders `PACKED` where the statuses were the same. -/
theorem orderPacked_setOrderStatus_congr {db' : Db}
    (hstatus : ∀ other, (db.salesOrders.find? other).map SalesOrder.status =
      (db'.salesOrders.find? other).map SalesOrder.status) (other : ℕ) :
    orderPacked (setOrderStatus soId status db) other =
      orderPacked (setOrderStatus soId status db') other := by
  have hother := hstatus other
  simp only [orderPacked, setOrderStatus, Table.find?_updateKey]
  cases hfound : db.salesOrders.find? other with
  | none =>
      rw [hfound, Option.map_none] at hother
      rw [Option.map_eq_none_iff.mp hother.symm]
  | some order =>
      rw [hfound, Option.map_some] at hother
      obtain ⟨order', hfound', hsame⟩ := Option.map_eq_some_iff.mp hother.symm
      rw [hfound']
      split
      · rfl
      · simp [hsame]

theorem clearShipment_status (soId : ℕ) (db : Db) (other : ℕ) :
    ((clearShipment soId db).salesOrders.find? other).map SalesOrder.status =
      (db.salesOrders.find? other).map SalesOrder.status := by
  rw [clearShipment, Table.find?_updateKey]
  split
  · cases db.salesOrders.find? other <;> rfl
  · rfl

/-- The orders that are `PACKED` after a revert. -/
theorem orderPacked_storeRevert (soId : ℕ) :
    orderPacked (storeRevert ctx request order released lineIds world).db soId =
      orderPacked (setOrderStatus request.soId request.newStatus world.db) soId := by
  apply orderPacked_setOrderStatus_congr
  intro other
  have horders : (unpackNamed request.soId lineIds
      (run (releasePickedTask ctx order.warehouseId) world.db released)).salesOrders =
        world.db.salesOrders := run_releasePickedTask_orders world.db
  split
  · rw [clearShipment_status, horders]
  · rw [horders]

theorem storeRevert_tasks :
    (storeRevert ctx request order released lineIds world).db.pickTasks =
      (run (releasePickedTask ctx order.warehouseId) world.db released).pickTasks := by
  simp only [storeRevert, setOrderStatus]
  split <;> rfl

variable (hkept : PackKept world) (hunits : NonnegUnits world.db)
  (hreleased : ∀ task ∈ released, 0 ≤ task.quantityPicked)
  (hnone : needUnpack request order = false → lineIds = [])
  (hfits : RevertFits request order released lineIds world.db)

include hkept hunits hreleased

/-- The lines a revert leaves. -/
theorem mem_storeRevert {after : SalesOrderLine}
    (hafter : after ∈
      (storeRevert ctx request order released lineIds world).db.salesOrderLines.rows) :
    ∃ line ∈ world.db.salesOrderLines.rows,
      after.soLineId = line.soLineId ∧ after.soId = line.soId ∧
        after.quantityPacked = (if line.soId = request.soId ∧ line.soLineId ∈ lineIds then 0
          else line.quantityPacked) ∧
        after.quantityPicked =
          max 0 (line.quantityPicked - releasedUnits released line.soLineId) := by
  rw [storeRevert_rows] at hafter
  obtain ⟨line, hline, rfl⟩ := List.mem_map.mp hafter
  have hpicked := (hunits.packed line hline).trans (hkept.within line hline)
  exact ⟨line, hline, revertedLine_spec hreleased hpicked⟩

theorem NonnegUnits.storeRevert :
    NonnegUnits (storeRevert ctx request order released lineIds world).db := by
  constructor
  · intro after hafter
    obtain ⟨line, hline, -, -, hpacked, -⟩ := mem_storeRevert hkept hunits hreleased hafter
    rw [hpacked]
    split
    · exact le_rfl
    · exact hunits.packed line hline
  · intro task htask
    rw [storeRevert_tasks] at htask
    obtain ⟨old, hold, hsame⟩ := run_releasePickedTask_tasks world.db task htask
    rw [hsame]
    exact hunits.picked old hold

include hnone hfits

/-- Where a revert fits, a line is packed no longer if its order is unpacked, and as far as
it was otherwise. -/
theorem RevertFits.packed {after : SalesOrderLine}
    (hafter : after ∈
      (SentryWms.Fulfillment.storeRevert ctx request order released lineIds
        world).db.salesOrderLines.rows) :
    ∃ line ∈ world.db.salesOrderLines.rows,
      after.soLineId = line.soLineId ∧ after.soId = line.soId ∧
        after.quantityPacked =
          (if needUnpack request order = true ∧ line.soId = request.soId then 0
            else line.quantityPacked) ∧
        after.quantityPicked =
          max 0 (line.quantityPicked - releasedUnits released line.soLineId) := by
  obtain ⟨line, hline, hkey, hsoId, hpacked, hpicked⟩ :=
    mem_storeRevert hkept hunits hreleased hafter
  refine ⟨line, hline, hkey, hsoId, ?_, hpicked⟩
  have hline := hfits.lines line hline
  rw [hpacked]
  by_cases hneed : needUnpack request order = true ∧ line.soId = request.soId
  · rw [if_pos hneed] at hline ⊢
    by_cases hfound : line.soLineId ∈ lineIds
    · rw [if_pos ⟨hneed.2, hfound⟩]
    · rw [if_neg fun hboth => hfound hboth.2]
      exact hline.resolve_right hfound
  · rw [if_neg hneed, if_neg]
    rintro ⟨hsame, hfound⟩
    apply hneed ⟨_, hsame⟩
    by_contra hnot
    rw [hnone (by simpa using hnot)] at hfound
    cases hfound

theorem PackKept.storeRevert : PackKept (storeRevert ctx request order released lineIds world) := by
  constructor
  · intro after hafter
    obtain ⟨line, hline, hkey, hsoId, hpacked, -⟩ :=
      hfits.packed hkept hunits hreleased hnone hafter
    have hcounted := hkept.counted line hline
    rw [hpacked, hkey, hsoId, SentryWms.Fulfillment.storeRevert]
    by_cases hneed : needUnpack request order = true
    · rw [if_pos hneed, verifiedSince]
      by_cases hsame : line.soId = request.soId
      · rw [if_pos ⟨hneed, hsame⟩, if_pos hsame.symm]
      · rw [if_neg fun hboth => hsame hboth.2, if_neg (Ne.symm hsame)]
        exact hcounted
    · rw [if_neg fun hboth => hneed hboth.1, if_neg hneed]
      exact hcounted
  · intro after hafter
    obtain ⟨line, hline, -, -, hpacked, hpicked⟩ := hfits.packed hkept hunits hreleased hnone hafter
    have hfit := hfits.lines line hline
    rw [hpacked, hpicked]
    split
    · exact le_max_left 0 _
    · rename_i hneed
      rw [if_neg hneed] at hfit
      omega

/-- A revert that takes an order back to `PACKED` leaves its lines full. -/
theorem packsFull_storeRevert :
    PacksFull world
      (SentryWms.Fulfillment.storeRevert ctx request order released lineIds world) := by
  intro soId hbefore hafter after hline
  rw [orderPacked_storeRevert] at hafter
  obtain ⟨rfl, hnew⟩ := orderPacked_setOrderStatus hbefore hafter
  obtain ⟨hmem, hsoId⟩ := mem_linesOf.mp hline
  obtain ⟨line, hline, -, hsame, hpacked, hpicked⟩ := hfits.packed hkept hunits hreleased hnone hmem
  have hneed : needUnpack request order = false := by
    simp [needUnpack, hnew, statusOrder]
  rw [hpacked, hpicked, hneed, if_neg (by simp)]
  exact hfits.full hnew hbefore line (mem_linesOf.mpr ⟨hline, hsame.symm.trans hsoId⟩)

/-- The lines of another order stay verified. -/
theorem verified_storeRevert (hother : soId ≠ request.soId)
    (hverified : ∀ line ∈ linesOf world.db soId, line.quantityPicked ≤ line.quantityPacked) :
    ∀ after ∈ linesOf (SentryWms.Fulfillment.storeRevert ctx request order released lineIds
      world).db soId, after.quantityPicked ≤ after.quantityPacked := by
  intro after hafter
  obtain ⟨hmem, hsoId⟩ := mem_linesOf.mp hafter
  obtain ⟨line, hline, -, hsame, hpacked, hpicked⟩ := hfits.packed hkept hunits hreleased hnone hmem
  have horder : line.soId = soId := hsame.symm.trans hsoId
  have hfull := hverified line (mem_linesOf.mpr ⟨hline, horder⟩)
  have hnonneg := hunits.packed line hline
  have hunits := releasedUnits_nonneg hreleased line.soLineId
  rw [hpacked, hpicked, if_neg fun hboth => hother (horder.symm.trans hboth.2)]
  omega

end Revert

end Commits

/-! ## The outline -/

/-- What every commit keeps. -/
def PackInv (world : PackWorld) : Prop := PackKept world ∧ NonnegUnits world.db

section Statements

variable {isLocked : PackLock → Bool} {world next : PackWorld} {request : PackRequest}
  {memory after : PackMemory} {answer : PackAnswer}

theorem pack_proceeds (hinv : PackInv world) (hknown : KnowsPack request memory world)
    (hproceed : packStatement request memory isLocked world = .proceed after) :
    KnowsPack request after world := by
  cases pack_step_of hproceed with
  | finds | matched | writes | locks => trivial
  | verifies ctx sees soId order hverified =>
      intro line hline
      by_contra hunder
      have hmem : line ∈ unverifiedLines world.db soId :=
        List.mem_filter.mpr ⟨hline, decide_eq_true (lt_of_not_ge hunder)⟩
      rw [hverified] at hmem
      cases hmem
  | covers => exact hknown
  | locksReverted => exact ⟨fun _ htask => (List.not_mem_nil htask).elim, trivial⟩
  | locksTasks ctx request order tasks hstored =>
      exact ⟨fun task htask => hinv.2.picked task (hstored task htask), trivial⟩
  | releases ctx request order released task rest =>
      refine ⟨?_, trivial⟩
      intro found hfound
      apply hknown.1
      simpa [RevertPoint.tasks] using hfound
  | counts ctx request order released =>
      refine ⟨?_, trivial⟩
      intro task htask
      apply hknown.1
      simpa [RevertPoint.tasks] using htask
  | unpacks ctx request order released lineIds hneed => exact ⟨hknown.1, hneed⟩

/-- An allowed commit keeps the counts, and packs an order only when it is full. -/
theorem pack_commits (hinv : PackInv world) (hknown : KnowsPack request memory world)
    (hallowed : PackAllowed request memory world)
    (hcommit : packStatement request memory isLocked world = .commit next answer) :
    PackInv next ∧ PacksFull world next := by
  obtain ⟨hkept, hunits⟩ := hinv
  cases pack_step_of hcommit with
  | scans sees request line =>
      refine ⟨⟨hkept.storeScan hallowed, hunits.storeScan hallowed⟩, ?_⟩
      intro soId hbefore hafter
      change orderPacked world.db soId = true at hafter
      rw [hbefore] at hafter
      cases hafter
  | packs ctx sees soId order =>
      exact ⟨⟨hkept.storePacked, hunits.storePacked⟩, packsFull_storePacked hkept hknown⟩
  | reverts ctx request order released lineIds =>
      obtain ⟨hreleased, hnone⟩ := hknown
      exact ⟨⟨hkept.storeRevert hunits hreleased hnone hallowed,
        hunits.storeRevert hkept hreleased⟩,
        packsFull_storeRevert hkept hunits hreleased hnone hallowed⟩

/-- The order locked by a completion. -/
theorem completing_holds {ctx : RequestContext} {sees : ℕ → Bool} (point : CompletePoint) :
    packProgram.holds (.complete ctx sees soId) (.completing point) (.order soId) = true :=
  decide_eq_true rfl

/-- What a completion has counted survives an allowed commit of another transaction. -/
theorem verified_survives (hinv : PackInv world) (hknown : KnowsPack request memory world)
    (hallowed : PackAllowed request memory world)
    (hapart : packHolds request memory (.order soId) = false)
    (hcommit : packStatement request memory isLocked world = .commit next answer)
    (hverified : ∀ line ∈ linesOf world.db soId, line.quantityPicked ≤ line.quantityPacked) :
    ∀ line ∈ linesOf next.db soId, line.quantityPicked ≤ line.quantityPacked := by
  obtain ⟨hkept, hunits⟩ := hinv
  cases pack_step_of hcommit with
  | scans sees request line => exact verified_storeScan hallowed hverified
  | packs ctx sees other order =>
      rw [linesOf, storePacked_lines, ← linesOf]
      exact hverified
  | reverts ctx request order released lineIds =>
      obtain ⟨hreleased, hnone⟩ := hknown
      refine verified_storeRevert hkept hunits hreleased hnone hallowed ?_ hverified
      rintro rfl
      exact absurd hapart (by simp [packHolds, RevertPoint.holds])

/-- A transaction takes only free locks. -/
theorem pack_acquires (hproceed : packStatement request memory isLocked world = .proceed after)
    (lock : PackLock) (hlock : packHolds request after lock = true) :
    packHolds request memory lock = true ∨ isLocked lock = false := by
  cases pack_step_of hproceed with
  | finds | matched => cases hlock
  | writes sees request line hfree =>
      cases lock with
      | line soLineId =>
          obtain rfl : line.soLineId = soLineId := of_decide_eq_true hlock
          exact Or.inr hfree
      | order | task => cases hlock
  | locks ctx sees soId order hfree =>
      cases lock with
      | order locked =>
          obtain rfl : soId = locked := of_decide_eq_true hlock
          exact Or.inr hfree
      | line | task => cases hlock
  | verifies | covers =>
      left
      cases lock with
      | order locked => exact hlock
      | _ => cases hlock
  | locksReverted ctx request order hfree =>
      cases lock with
      | order locked =>
          obtain rfl : request.soId = locked := of_decide_eq_true hlock
          exact Or.inr hfree
      | line | task => cases hlock
  | locksTasks ctx request order tasks hstored hfree =>
      cases lock with
      | order locked => exact Or.inl hlock
      | line soLineId => cases hlock
      | task pickTaskId =>
          obtain ⟨task, htask, rfl⟩ := List.mem_map.mp (of_decide_eq_true hlock)
          exact Or.inr (hfree task htask)
  | releases ctx request order released task rest hfree =>
      cases lock with
      | order locked => exact Or.inl hlock
      | line soLineId =>
          simp only [packHolds, RevertPoint.holds, List.any_append, Bool.or_eq_true] at hlock
          cases hlock with
          | inl hold => exact Or.inl hold
          | inr hnew => exact Or.inr (hfree soLineId (by simpa using hnew))
      | task pickTaskId =>
          left
          simpa [packHolds, RevertPoint.holds] using hlock
  | counts ctx request order released =>
      left
      cases lock <;> simpa [packHolds, RevertPoint.holds] using hlock
  | unpacks ctx request order released lineIds hneed hfree =>
      cases lock with
      | order | task => exact Or.inl hlock
      | line soLineId =>
          simp only [packHolds, RevertPoint.holds, Bool.or_eq_true] at hlock
          cases hlock with
          | inl hold => exact Or.inl hold
          | inr hnew => exact Or.inr (hfree soLineId (of_decide_eq_true hnew))

end Statements

theorem pack_outline : Outline packProgram PackInv KnowsPack PackAllowed
    fun world request memory _ _ => PackAllowed request memory world where
  start := by
    intro request world _
    cases request <;> trivial
  acquires := fun _ _ _ _ _ hproceed => pack_acquires hproceed
  proceeds := fun _ _ _ _ _ hinv hknown hproceed => pack_proceeds hinv hknown hproceed
  commits := fun _ _ _ _ _ _ hinv hknown hallowed hcommit =>
    (pack_commits hinv hknown hallowed hcommit).1
  stable := by
    intro request memory isLocked world next answer other memory' hinv hknown hother _ hapart
      hallowed hcommit
    cases other with
    | verify sees scan => trivial
    | revert ctx request =>
        cases memory' with
        | reverting point => exact hother
        | _ => trivial
    | complete ctx sees soId =>
        cases memory' with
        | completing point =>
            have hfree : packHolds request memory (.order soId) = false := by
              by_contra hheld
              have htaken := hapart (.order soId) (eq_true_of_ne_false hheld)
              rw [completing_holds point] at htaken
              cases htaken
            cases point with
            | locked order => trivial
            | verified | covered =>
                exact verified_survives hinv hknown hallowed hfree hcommit hother
        | _ => trivial

section Runs

variable {Ticket : Type*} [Fintype Ticket] [DecidableEq Ticket]
  {requests : Ticket → PackRequest} {opening : PackWorld} {steps : List (Step Ticket)}

/-- While every scan commits a count that is still good and every revert fits what is
packed, in any order of statements: each count is what scans have reported since the order
was last unpacked, and no more than is picked, and an order becomes `PACKED` only when it is
packed in full. -/
theorem pack_counts_kept (hopening : PackKept opening) (hunits : NonnegUnits opening.db)
    (hclear : Along (Sessions.serve packProgram requests)
      (Clear packProgram requests PackAllowed fun _ _ _ _ _ => True)
      (opened packProgram requests opening) steps) :
    PackKept (run (Sessions.serve packProgram requests) (opened packProgram requests opening)
        steps).world ∧
      Along (Sessions.serve packProgram requests)
        (fun service step =>
          PacksFull service.world (Sessions.serve packProgram requests service step).world)
        (opened packProgram requests opening) steps := by
  have hbeside := along_beside hclear
  refine ⟨(sound_run pack_outline ⟨hopening, hunits⟩ hbeside).inv.1, ?_⟩
  apply along_sound pack_outline _ _ ⟨hopening, hunits⟩ hbeside
  · intro world soId hbefore hafter
    rw [hbefore] at hafter
    cases hafter
  · intro request memory isLocked world next answer hinv hknown hallowed hcommit
    exact (pack_commits hinv hknown hallowed hcommit).2

end Runs

instance (world : PackWorld) : Decidable (PackKept world) :=
  decidable_of_iff
    ((∀ line ∈ world.db.salesOrderLines.rows,
        line.quantityPacked = verifiedSince line.soId line.soLineId world.log) ∧
      ∀ line ∈ world.db.salesOrderLines.rows, line.quantityPacked ≤ line.quantityPicked)
    ⟨fun ⟨hcounted, hwithin⟩ => ⟨hcounted, hwithin⟩, fun hkept => ⟨hkept.counted, hkept.within⟩⟩

instance (db : Db) : Decidable (NonnegUnits db) :=
  decidable_of_iff
    ((∀ line ∈ db.salesOrderLines.rows, 0 ≤ line.quantityPacked) ∧
      ∀ task ∈ db.pickTasks.rows, 0 ≤ task.quantityPicked)
    ⟨fun ⟨hpacked, hpicked⟩ => ⟨hpacked, hpicked⟩, fun hunits => ⟨hunits.packed, hunits.picked⟩⟩

instance (request : VerifyItemRequest) (line : SalesOrderLine) (db : Db) :
    Decidable (ScanFits request line db) :=
  inferInstanceAs (Decidable (∀ now ∈ db.salesOrderLines.rows, _ → _ ∧ _))

instance (request : RevertStatusRequest) (order : SalesOrder) (released : List PickTask)
    (lineIds : List ℕ) (db : Db) : Decidable (RevertFits request order released lineIds db) :=
  decidable_of_iff
    ((∀ line ∈ db.salesOrderLines.rows,
        if needUnpack request order = true ∧ line.soId = request.soId then
          line.quantityPacked = 0 ∨ line.soLineId ∈ lineIds
        else
          line.quantityPacked = 0 ∨
            line.quantityPacked + releasedUnits released line.soLineId ≤ line.quantityPicked) ∧
      (request.newStatus = .soPacked → orderPacked db request.soId = false →
        ∀ line ∈ linesOf db request.soId, line.quantityPacked =
          max 0 (line.quantityPicked - releasedUnits released line.soLineId)))
    ⟨fun ⟨hlines, hfull⟩ => ⟨hlines, hfull⟩, fun hfits => ⟨hfits.lines, hfits.full⟩⟩

instance (request : PackRequest) (memory : PackMemory) (world : PackWorld) :
    Decidable (PackAllowed request memory world) := by
  unfold PackAllowed
  split <;> infer_instance

/-! ## Three units on a picked order -/

namespace SmallPacking

/-- Order 1 is picked: its line has three units, and none is packed. -/
def opening : PackWorld where
  db := SmallWarehouse.after
    [SmallWarehouse.receive 1 3 none, SmallWarehouse.order "SO-1" [SmallWarehouse.line 3],
      .createBatch (SmallWarehouse.batch ["SO-1"] []), .confirmPick (SmallWarehouse.confirm 1 3),
      .completeBatch 1]
  log := []

def scan (quantity : ℤ)
    (hpos : decide (0 < quantity) = true := by exact Eq.refl true) : PackRequest :=
  .verify (fun _ => true) ⟨1, "0123", quantity, SmallWarehouse.positive hpos⟩

def complete : PackRequest :=
  .complete (SmallWarehouse.pat 7) (fun _ => true) 1

/-- The order is to be `PICKED`, and these tasks are released. -/
def revert (releasePickTaskIds : List ℕ) : PackRequest :=
  .revert (SmallWarehouse.pat 8) ⟨1, .soPicked, releasePickTaskIds⟩

def advance {tickets : ℕ} (ticket : Fin tickets) (count : ℕ) : List (Step (Fin tickets)) :=
  List.replicate count (.advance ticket)

def after {tickets : ℕ} (requests : Fin tickets → PackRequest)
    (steps : List (Step (Fin tickets))) : PackWorld :=
  (run (Sessions.serve packProgram requests) (opened packProgram requests opening) steps).world

/-- Two scans, a completion and a revert that unpacks. -/
def orderly : Fin 4 → PackRequest
  | 0 => scan 1
  | 1 => scan 2
  | 2 => complete
  | 3 => revert []

/-- The second scan reads the lines when the first has committed. -/
def orderlySteps : List (Step (Fin 4)) :=
  advance 0 3 ++ advance 1 1 ++ advance 0 1 ++ advance 1 3 ++ advance 2 4 ++ advance 3 5

/-- Two scans of one unit, both of which read no unit packed. -/
def crossed : Fin 2 → PackRequest
  | _ => scan 1

def crossedSteps : List (Step (Fin 2)) := advance 0 2 ++ advance 1 2 ++ advance 0 2 ++ advance 1 2

/-- A scan of one unit that has read no unit packed, one of all three, and a completion. -/
def late : Fin 3 → PackRequest
  | 0 => scan 1
  | 1 => scan 3
  | 2 => complete

/-- The first scan writes when the completion has counted. -/
def lateSteps : List (Step (Fin 3)) :=
  advance 0 2 ++ advance 1 4 ++ advance 2 3 ++ advance 0 2 ++ advance 2 1

/-- A scan of all three units, and a release of the task they were picked for. -/
def emptied : Fin 2 → PackRequest
  | 0 => scan 3
  | 1 => revert [1]

def emptiedSteps : List (Step (Fin 2)) := advance 0 4 ++ advance 1 6

end SmallPacking

theorem pack_counts_kept_orderly :
    (SmallPacking.after SmallPacking.orderly SmallPacking.orderlySteps).log =
        [.unpacked 1, .verified 1 2, .verified 1 1] ∧
      PackKept (SmallPacking.after SmallPacking.orderly SmallPacking.orderlySteps) :=
  ⟨by decide, (pack_counts_kept (by decide) (by decide) (by decide)).1⟩

/-- A scan is lost to another; a scan that comes late leaves one of three units packed on an
order that becomes `PACKED`; and a release leaves three units packed where none is picked. -/
theorem pack_counts_lost :
    PackKept SmallPacking.opening ∧
      ((SmallPacking.after SmallPacking.crossed SmallPacking.crossedSteps).log =
          [.verified 1 1, .verified 1 1] ∧
        ¬ PackKept (SmallPacking.after SmallPacking.crossed SmallPacking.crossedSteps)) ∧
      (orderPacked (SmallPacking.after SmallPacking.late SmallPacking.lateSteps).db 1 = true ∧
        (linesOf (SmallPacking.after SmallPacking.late SmallPacking.lateSteps).db 1).map
          (fun line => (line.quantityPicked, line.quantityPacked)) = [(3, 1)]) ∧
      (linesOf (SmallPacking.after SmallPacking.emptied SmallPacking.emptiedSteps).db 1).map
          (fun line => (line.quantityPicked, line.quantityPacked)) = [(0, 3)] := by
  decide

end SentryWms.Fulfillment

import SentryWms.System

/-!
# The allocation stepper

An administrator moves the reservation of a line by hand.  A raise settles for what the rows
can give; a lowering sets the line to its target whatever the rows gave back, and it looks at
no task.  Here the line, the rows of its item and its tasks are compared before and after,
for every line and every step.
-/

namespace SentryWms.SalesOrders

open Relational Inventory

/-! ## The property -/

/-- The units that the pending tasks of the line are going to pick. -/
def pendingUnits (db : Db) (soLineId : ℕ) : ℤ :=
  ((pendingTasksOf db soLineId).map PickTask.quantityToPick).sum

/-- A row reserves between nothing and what it holds. -/
def WithinStock (row : InventoryRow) : Prop :=
  0 ≤ row.quantityAllocated ∧ row.quantityAllocated ≤ row.quantityOnHand

/-- Line and stock move together, within the bounds of line, rows and tasks. -/
structure Lockstep (warehouseId : ℕ) (before after : Db) (line moved : SalesOrderLine) :
    Prop where
  same : allocatedIn after line.itemId warehouseId - allocatedIn before line.itemId warehouseId =
    moved.quantityAllocated - line.quantityAllocated
  clamped : line.quantityPicked ≤ moved.quantityAllocated ∧
    moved.quantityAllocated ≤ line.quantityOrdered
  rows : ∀ row ∈ after.inventory.rows, WithinStock row
  backed : moved.quantityAllocated < line.quantityAllocated →
    pendingUnits after line.soLineId + line.quantityPicked ≤ moved.quantityAllocated

/-! ## The condition -/

/-- What the rows that can reserve have available. -/
def reservable (db : Db) (itemId warehouseId : ℕ) : ℤ :=
  ((reservableRows db itemId warehouseId).map InventoryRow.available).sum

/-- What the rows that reserve anything reserve. -/
def releasable (db : Db) (itemId warehouseId : ℕ) : ℤ :=
  ((allocatedRows db itemId warehouseId).map InventoryRow.quantityAllocated).sum

/-- What the step adds to the reservation of a row. -/
def rowStep (db : Db) (line : SalesOrderLine) (warehouseId : ℕ) (target : ℤ)
    (row : InventoryRow) : ℤ :=
  if line.quantityAllocated < target then
    share InventoryRow.inventoryId InventoryRow.available (target - line.quantityAllocated)
      row.inventoryId (reservableRows db line.itemId warehouseId)
  else
    -share InventoryRow.inventoryId InventoryRow.quantityAllocated
      (line.quantityAllocated - target) row.inventoryId
      (allocatedRows db line.itemId warehouseId)

/-- The step can be taken by line, rows and tasks alike. -/
structure StepFits (db : Db) (line : SalesOrderLine) (warehouseId : ℕ) (target : ℤ) :
    Prop where
  ordered : line.quantityPicked ≤ line.quantityOrdered
  raised : line.quantityAllocated < target →
    line.quantityPicked ≤ line.quantityAllocated + reservable db line.itemId warehouseId
  lowered : target < line.quantityAllocated →
    line.quantityAllocated - target ≤ releasable db line.itemId warehouseId ∧
      pendingUnits db line.soLineId + line.quantityPicked ≤ target
  rows : ∀ row ∈ db.inventory.rows,
    WithinStock { row with
      quantityAllocated := row.quantityAllocated + rowStep db line warehouseId target row }

/-! ## The rows -/

/-- A walk moves what each row reserves by what it takes there, and nothing on the shelf. -/
theorem applyTakes_units (stamp : Option ℕ) (sign : ℤ) (db : Db) (takes : List (InventoryRow × ℤ)) :
    (applyTakes stamp sign db takes).inventory.rows.map
        (fun row => (row.quantityAllocated, row.quantityOnHand)) =
      db.inventory.rows.map fun row =>
        (row.quantityAllocated + sign * takenAt InventoryRow.inventoryId row.inventoryId takes,
          row.quantityOnHand) := by
  have hrows := congrArg
    (List.map fun row : InventoryRow => (row.quantityAllocated, row.quantityOnHand))
    (applyTakes_unstamped stamp sign db takes)
  rw [List.map_map, List.map_map] at hrows
  exact hrows

variable {db : Db} {row : InventoryRow}

theorem withinStock_applyTakes {stamp : Option ℕ} {sign : ℤ} {takes : List (InventoryRow × ℤ)} :
    (∀ row ∈ (applyTakes stamp sign db takes).inventory.rows, WithinStock row) ↔
      ∀ row ∈ db.inventory.rows, WithinStock { row with
        quantityAllocated := row.quantityAllocated +
          sign * takenAt InventoryRow.inventoryId row.inventoryId takes } := by
  have hunits := applyTakes_units stamp sign db takes
  have hall : ∀ rows : List InventoryRow, (∀ row ∈ rows, WithinStock row) ↔
      ∀ units ∈ rows.map (fun row => (row.quantityAllocated, row.quantityOnHand)),
        0 ≤ units.1 ∧ units.1 ≤ units.2 := by
    intro rows
    simp [WithinStock]
  rw [hall, hunits]
  simp [WithinStock]

theorem allocatedIn_drawn (stamp : Option ℕ) (sign : ℤ) (capacity : InventoryRow → ℤ)
    (need : ℤ) {itemId warehouseId : ℕ} {rows : List InventoryRow}
    (hrows : ∀ row ∈ rows, row ∈ db.inventory.rows ∧ row.itemId = itemId ∧
      row.warehouseId = warehouseId) :
    allocatedIn (applyTakes stamp sign db (draws capacity need rows)) itemId warehouseId =
      allocatedIn db itemId warehouseId + sign * drawn capacity need rows := by
  rw [allocatedIn_applyTakes db sign capacity need hrows, if_pos ⟨rfl, rfl⟩]

section Steps

variable {ctx : RequestContext} {db : Db} {line : SalesOrderLine} {warehouseId : ℕ} {target : ℤ}

theorem available_nonneg (hrow : row ∈ reservableRows db line.itemId warehouseId) :
    0 ≤ row.available :=
  (mem_reservableRows.mp hrow).2.2.2.le

theorem allocated_nonneg (hrow : row ∈ allocatedRows db line.itemId warehouseId) :
    0 ≤ row.quantityAllocated :=
  (mem_allocatedRows.mp hrow).2.2.2.le

/-! ### A raise -/

/-- A raise reserves what is missing to the target, or all there is. -/
theorem takenUnits_raiseTakes (hraise : line.quantityAllocated < target) :
    takenUnits (raiseTakes db line warehouseId target) =
      min (target - line.quantityAllocated) (reservable db line.itemId warehouseId) :=
  drawn_eq_min InventoryRow.available (sub_nonneg.mpr hraise.le) fun _ => available_nonneg

theorem allocatedIn_raise (stamp : Option ℕ) :
    allocatedIn (applyTakes stamp 1 db (raiseTakes db line warehouseId target)) line.itemId
        warehouseId =
      allocatedIn db line.itemId warehouseId +
        takenUnits (raiseTakes db line warehouseId target) := by
  have hmoved := allocatedIn_drawn stamp 1 InventoryRow.available (target - line.quantityAllocated)
    fun row (hrow : row ∈ reservableRows db line.itemId warehouseId) =>
      ⟨(mem_reservableRows.mp hrow).1, (mem_reservableRows.mp hrow).2.1,
        (mem_reservableRows.mp hrow).2.2.1⟩
  rw [one_mul] at hmoved
  exact hmoved

theorem rows_raise (stamp : Option ℕ) (hraise : line.quantityAllocated < target) :
    (∀ row ∈ (applyTakes stamp 1 db (raiseTakes db line warehouseId target)).inventory.rows,
      WithinStock row) ↔
      ∀ row ∈ db.inventory.rows, WithinStock { row with
        quantityAllocated := row.quantityAllocated + rowStep db line warehouseId target row } := by
  have hshare : ∀ row : InventoryRow,
      1 * takenAt InventoryRow.inventoryId row.inventoryId
        (raiseTakes db line warehouseId target) = rowStep db line warehouseId target row := by
    intro row
    rw [one_mul, rowStep, if_pos hraise]
    exact takenAt_draws_eq_share InventoryRow.available _ (reservableRows_keys ..)
      (fun _ => available_nonneg) _
  simp only [withinStock_applyTakes, hshare]

/-! ### A lowering -/

theorem allocatedIn_lower (stamp : Option ℕ) (hlower : target < line.quantityAllocated) :
    allocatedIn (applyTakes stamp (-1) db (lowerTakes db line warehouseId target)) line.itemId
        warehouseId =
      allocatedIn db line.itemId warehouseId -
        min (line.quantityAllocated - target) (releasable db line.itemId warehouseId) := by
  have hmoved := allocatedIn_drawn stamp (-1) InventoryRow.quantityAllocated
    (line.quantityAllocated - target)
    fun row (hrow : row ∈ allocatedRows db line.itemId warehouseId) =>
      ⟨(mem_allocatedRows.mp hrow).1, (mem_allocatedRows.mp hrow).2.1,
        (mem_allocatedRows.mp hrow).2.2.1⟩
  have hdrawn := drawn_eq_min InventoryRow.quantityAllocated (sub_nonneg.mpr hlower.le)
    fun row (hrow : row ∈ allocatedRows db line.itemId warehouseId) => allocated_nonneg hrow
  rw [hdrawn] at hmoved
  rw [lowerTakes, hmoved, releasable]
  omega

theorem rows_lower (stamp : Option ℕ) (hlower : target < line.quantityAllocated) :
    (∀ row ∈ (applyTakes stamp (-1) db
        (lowerTakes db line warehouseId target)).inventory.rows, WithinStock row) ↔
      ∀ row ∈ db.inventory.rows, WithinStock { row with
        quantityAllocated := row.quantityAllocated + rowStep db line warehouseId target row } := by
  have hshare : ∀ row : InventoryRow,
      -1 * takenAt InventoryRow.inventoryId row.inventoryId
        (lowerTakes db line warehouseId target) = rowStep db line warehouseId target row := by
    intro row
    rw [neg_one_mul, rowStep, if_neg (not_lt.mpr hlower.le)]
    exact congrArg Neg.neg (takenAt_draws_eq_share InventoryRow.quantityAllocated _
      (allocatedRows_keys ..) (fun _ => allocated_nonneg) _)
  simp only [withinStock_applyTakes, hshare]

/-! ### No step -/

theorem rowStep_same : rowStep db line warehouseId line.quantityAllocated row = 0 := by
  rw [rowStep, if_neg (lt_irrefl _), sub_self,
    share_of_nonpos le_rfl _ fun _ => allocated_nonneg]
  rfl

/-! ### All steps -/

theorem find?_setAllocated (stamp : Option ℕ) (sign qty : ℤ) (takes : List (InventoryRow × ℤ))
    (hstored : db.salesOrderLines.find? line.soLineId = some line) :
    (updateLine (some line.soLineId) (SalesOrderLine.setAllocated qty)
        (applyTakes stamp sign db takes) (fun _ => rfl)).salesOrderLines.find? line.soLineId =
      some (line.setAllocated qty) := by
  have hset : ∀ row : SalesOrderLine, (row.setAllocated qty).soLineId = row.soLineId :=
    fun _ => rfl
  have hfind := Table.find?_updateKey (applyTakes stamp sign db takes).salesOrderLines
    (SalesOrderLine.setAllocated qty) hset line.soLineId line.soLineId
  have hline : (applyTakes stamp sign db takes).salesOrderLines.find? line.soLineId =
      some line := by
    rw [applyTakes_salesOrderLines]
    exact hstored
  rw [if_pos rfl, hline] at hfind
  exact hfind

/-- What is picked and what is ordered hold the target between them, if they leave room. -/
theorem adjustTarget_le_iff {delta : ℤ} :
    adjustTarget line delta ≤ line.quantityOrdered ↔
      line.quantityPicked ≤ line.quantityOrdered := by
  unfold adjustTarget
  omega

theorem le_adjustTarget (line : SalesOrderLine) (delta : ℤ) :
    line.quantityPicked ≤ adjustTarget line delta :=
  le_max_left _ _

theorem allocatedIn_of_inventory {before after : Db}
    (hinventory : after.inventory = before.inventory) (itemId warehouseId : ℕ) :
    allocatedIn after itemId warehouseId = allocatedIn before itemId warehouseId := by
  simp only [allocatedIn, allocatedOver, hinventory]

section Outcomes

variable {after : Db} {moved : SalesOrderLine} {stamp : Option ℕ}
  (hpicked : line.quantityPicked ≤ target)
  (hordered : target ≤ line.quantityOrdered ↔ line.quantityPicked ≤ line.quantityOrdered)
include hpicked hordered

/-- A raise backs off to what the rows gave, so only the line's own bounds can fail. -/
theorem lockstep_raise (hraise : line.quantityAllocated < target)
    (hinventory : after.inventory =
      (applyTakes stamp 1 db (raiseTakes db line warehouseId target)).inventory)
    (hmoved : moved.quantityAllocated = line.quantityAllocated +
      takenUnits (raiseTakes db line warehouseId target)) :
    Lockstep warehouseId db after line moved ↔ StepFits db line warehouseId target := by
  have hunits := @takenUnits_raiseTakes db line warehouseId target hraise
  have hstock := @allocatedIn_raise db line warehouseId target stamp
  have hrows := @rows_raise db line warehouseId target stamp hraise
  rw [← allocatedIn_of_inventory hinventory] at hstock
  rw [← hinventory] at hrows
  have hreservable : 0 ≤ reservable db line.itemId warehouseId := by
    refine List.sum_nonneg fun units hmem => ?_
    obtain ⟨row, hrow, rfl⟩ := List.mem_map.mp hmem
    exact available_nonneg hrow
  constructor
  · intro hlock
    obtain ⟨hlow, hhigh⟩ := hlock.clamped
    exact ⟨hlow.trans hhigh, fun _ => by omega, fun hlower => by omega, hrows.mp hlock.rows⟩
  · intro hfits
    have hleft := hordered.mpr hfits.ordered
    have hright := hfits.raised hraise
    exact ⟨by omega, by omega, hrows.mpr hfits.rows, by omega⟩

/-- A lowering ends at its target, whether rows and tasks can follow or not. -/
theorem lockstep_lower (hlower : target < line.quantityAllocated)
    (hinventory : after.inventory =
      (applyTakes stamp (-1) db (lowerTakes db line warehouseId target)).inventory)
    (htasks : after.pickTasks = db.pickTasks) (hmoved : moved.quantityAllocated = target) :
    Lockstep warehouseId db after line moved ↔ StepFits db line warehouseId target := by
  have hstock := @allocatedIn_lower db line warehouseId target stamp hlower
  have hrows := @rows_lower db line warehouseId target stamp hlower
  rw [← allocatedIn_of_inventory hinventory] at hstock
  rw [← hinventory] at hrows
  have hpending : pendingUnits after line.soLineId = pendingUnits db line.soLineId := by
    rw [pendingUnits, pendingTasksOf, htasks]
    rfl
  constructor
  · intro hlock
    obtain ⟨hlow, hhigh⟩ := hlock.clamped
    have hsame := hlock.same
    have hbacked := hlock.backed (by omega)
    exact ⟨hlow.trans hhigh, fun hraise => by omega, fun _ => ⟨by omega, by omega⟩,
      hrows.mp hlock.rows⟩
  · intro hfits
    have hleft := hordered.mpr hfits.ordered
    obtain ⟨henough, hbacked⟩ := hfits.lowered hlower
    exact ⟨by omega, by omega, hrows.mpr hfits.rows, by omega⟩

theorem lockstep_same (hsame : target = line.quantityAllocated) :
    Lockstep warehouseId db db line line ↔ StepFits db line warehouseId target := by
  subst hsame
  have hkept : ∀ row : InventoryRow, { row with
      quantityAllocated := row.quantityAllocated +
        rowStep db line warehouseId line.quantityAllocated row } = row := by
    intro row
    rw [rowStep_same, add_zero]
  constructor
  · intro hlock
    obtain ⟨hlow, hhigh⟩ := hlock.clamped
    refine ⟨hlow.trans hhigh, fun hraise => by omega, fun hlower => by omega, ?_⟩
    simpa only [hkept] using hlock.rows
  · intro hfits
    refine ⟨by omega, ⟨hpicked, hordered.mpr hfits.ordered⟩, ?_, fun hlower => by omega⟩
    simpa only [hkept] using hfits.rows

end Outcomes

/-- The stepper keeps line, stock and tasks together exactly if the step fits all of them. -/
theorem lockstep_adjust {delta : ℤ} {moved : SalesOrderLine}
    (hstored : db.salesOrderLines.find? line.soLineId = some line)
    (hmoved : (adjustAllocation ctx db line warehouseId
      (adjustTarget line delta)).salesOrderLines.find? line.soLineId = some moved) :
    Lockstep warehouseId db
        (adjustAllocation ctx db line warehouseId (adjustTarget line delta)) line moved ↔
      StepFits db line warehouseId (adjustTarget line delta) := by
  have hpicked := le_adjustTarget line delta
  have hordered := @adjustTarget_le_iff line delta
  generalize adjustTarget line delta = target at *
  unfold adjustAllocation at hmoved ⊢
  split at hmoved
  · rename_i hraise
    rw [find?_setAllocated _ _ _ _ hstored] at hmoved
    cases hmoved
    rw [if_pos hraise]
    exact lockstep_raise hpicked hordered hraise rfl rfl
  · rename_i hraise
    rw [if_neg hraise]
    split at hmoved
    · rename_i hlower
      rw [find?_setAllocated _ _ _ _ hstored] at hmoved
      cases hmoved
      rw [if_pos hlower]
      exact lockstep_lower hpicked hordered hlower rfl (applyTakes_pickTasks ..) rfl
    · rename_i hlower
      rw [hstored] at hmoved
      cases hmoved
      rw [if_neg hlower]
      exact lockstep_same hpicked hordered (by omega)

end Steps

/-! ## Every accepted step -/

/-- Over every order, line and step: the stepper keeps line, stock and tasks together exactly
if the step fits all of them. -/
theorem lockstep_iff {ctx : RequestContext} {db db' : Db} {request : AdjustAllocationRequest}
    {allocated : ℤ}
    (hok : adjustSalesOrderLineAllocation ctx db request = .ok (db', allocated)) :
    (∀ line ∈ lineOn db request.soId request.soLineId,
      ∀ order ∈ db.salesOrders.find? request.soId,
        ∀ moved ∈ db'.salesOrderLines.find? request.soLineId,
          Lockstep order.warehouseId db db' line moved) ↔
      ∀ line ∈ lineOn db request.soId request.soLineId,
        ∀ order ∈ db.salesOrders.find? request.soId,
          StepFits db line order.warehouseId (adjustTarget line request.delta) := by
  simp only [adjustSalesOrderLineAllocation, bind_eq_ok, orThrow_eq_ok, pure_eq_ok,
    Prod.mk.injEq] at hok
  obtain ⟨line, hline, order, horder, rfl, -⟩ := hok
  obtain ⟨hstored, -⟩ := Option.filter_eq_some_iff.mp hline
  have hkey := Table.find?_key hstored
  rw [← hkey] at hstored ⊢
  obtain ⟨moved, hmoved⟩ : ∃ moved, (adjustAllocation ctx db line order.warehouseId
      (adjustTarget line request.delta)).salesOrderLines.find? line.soLineId =
        some moved := by
    unfold adjustAllocation
    split
    · exact ⟨_, find?_setAllocated _ _ _ _ hstored⟩
    · split
      · exact ⟨_, find?_setAllocated _ _ _ _ hstored⟩
      · exact ⟨line, hstored⟩
  have hlock := lockstep_adjust hstored hmoved
  rw [hkey] at hmoved ⊢
  rw [hline, horder]
  simpa [hmoved] using hlock

/-! ### A line with a pending task -/

/-- Five units reserved for an order. -/
def stepperShop : Db :=
  SmallWarehouse.after
    [SmallWarehouse.receive 1 8 none, SmallWarehouse.order "S1" [SmallWarehouse.line 5]]

/-- The same order, planned for picking. -/
def stepperPlanned : Db :=
  SmallWarehouse.after
    [SmallWarehouse.receive 1 8 none, SmallWarehouse.order "S1" [SmallWarehouse.line 5],
      .createBatch (SmallWarehouse.batch ["S1"] [])]

/-- Two units less. -/
def twoLess : AdjustAllocationRequest := ⟨1, 1, -2, by decide, by decide⟩

theorem lockstep_twoLess :
    ∃ db' allocated, adjustSalesOrderLineAllocation (SmallWarehouse.pat 9) stepperShop twoLess =
        .ok (db', allocated) ∧
      ∀ line ∈ lineOn stepperShop 1 1, ∀ order ∈ stepperShop.salesOrders.find? 1,
        ∀ moved ∈ db'.salesOrderLines.find? 1,
          Lockstep order.warehouseId stepperShop db' line moved := by
  obtain ⟨⟨db', allocated⟩, hok⟩ := exists_eq_ok (adjustSalesOrderLineAllocation
    (SmallWarehouse.pat 9) stepperShop twoLess) (by decide +kernel)
  refine ⟨db', allocated, hok, (lockstep_iff hok).mpr ?_⟩
  have hfits : ∀ line ∈ lineOn stepperShop 1 1, ∀ order ∈ stepperShop.salesOrders.find? 1,
      line.quantityPicked ≤ line.quantityOrdered ∧
        (line.quantityAllocated < adjustTarget line (-2) → line.quantityPicked ≤
          line.quantityAllocated + reservable stepperShop line.itemId order.warehouseId) ∧
        (adjustTarget line (-2) < line.quantityAllocated →
          line.quantityAllocated - adjustTarget line (-2) ≤
              releasable stepperShop line.itemId order.warehouseId ∧
            pendingUnits stepperShop line.soLineId + line.quantityPicked ≤ adjustTarget line (-2)) ∧
        ∀ row ∈ stepperShop.inventory.rows,
          0 ≤ row.quantityAllocated +
              rowStep stepperShop line order.warehouseId (adjustTarget line (-2)) row ∧
            row.quantityAllocated +
              rowStep stepperShop line order.warehouseId (adjustTarget line (-2)) row ≤
                row.quantityOnHand := by decide +kernel
  intro line hline order horder
  obtain ⟨hordered, hraised, hlowered, hrows⟩ := hfits line hline order horder
  exact ⟨hordered, hraised, hlowered, hrows⟩

/-- Lowered by two, the line keeps three units reserved for a task over five. -/
theorem stepper_undercuts_task :
    ∃ db' allocated, adjustSalesOrderLineAllocation (SmallWarehouse.pat 9) stepperPlanned
        twoLess = .ok (db', allocated) ∧
      ¬ ∀ line ∈ lineOn stepperPlanned 1 1, ∀ order ∈ stepperPlanned.salesOrders.find? 1,
        ∀ moved ∈ db'.salesOrderLines.find? 1,
          Lockstep order.warehouseId stepperPlanned db' line moved := by
  have hlowered : (adjustSalesOrderLineAllocation (SmallWarehouse.pat 9) stepperPlanned
      twoLess).toOption.map (fun result =>
        ((result.1.salesOrderLines.find? 1).map SalesOrderLine.quantityAllocated,
          pendingUnits result.1 1)) = some (some 3, 5) := by decide +kernel
  have hplanned : ∃ line ∈ lineOn stepperPlanned 1 1, line.soLineId = 1 ∧
      line.quantityAllocated = 5 ∧ line.quantityPicked = 0 := by decide +kernel
  have horders : ∃ order, order ∈ stepperPlanned.salesOrders.find? 1 :=
    Option.isSome_iff_exists.mp (by decide +kernel)
  obtain ⟨⟨db', allocated⟩, hok⟩ := exists_eq_ok (adjustSalesOrderLineAllocation
    (SmallWarehouse.pat 9) stepperPlanned twoLess) (by decide +kernel)
  refine ⟨db', allocated, hok, ?_⟩
  intro hlock
  rw [hok] at hlowered
  obtain ⟨hmoved, hpending⟩ := Prod.mk.inj (Option.some.inj hlowered)
  obtain ⟨moved, hfound, hthree⟩ := Option.map_eq_some_iff.mp hmoved
  obtain ⟨line, hline, hkey, hfive, hpicked⟩ := hplanned
  obtain ⟨order, horder⟩ := horders
  have hbacked := (hlock line hline order horder moved hfound).backed (by omega)
  rw [hkey, hpending, hpicked, hthree] at hbacked
  exact absurd hbacked (by decide)

end SentryWms.SalesOrders

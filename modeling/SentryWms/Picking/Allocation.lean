import SentryWms.Picking.Planner

/-!
# The allocation loops

When the plan leaves no order uncovered, both allocation loops grant every open
line its whole shortfall.  A stretch of either loop is described by what it
grants: the lines gain it, the pickable stock of the items loses it, and no row
is reserved beyond what it holds.
-/

namespace SentryWms.Picking

open Relational Inventory

/-! ## What a stretch of a loop grants -/

/-- The units of the contributions that pass a test. -/
def neededWhere (test : Contribution → Bool) (contributions : List Contribution) : ℤ :=
  combinedNeeded (contributions.filter test)

/-- The units a line is granted. -/
def neededBy (soLineId : ℕ) (contributions : List Contribution) : ℤ :=
  neededWhere (fun contribution => contribution.soLineId = soLineId) contributions

/-- The units taken from an item's stock. -/
def neededOf (itemId : ℕ) (contributions : List Contribution) : ℤ :=
  neededWhere (fun contribution => contribution.itemId = itemId) contributions

@[simp]
theorem combinedNeeded_nil : combinedNeeded [] = 0 := rfl

@[simp]
theorem combinedNeeded_cons (contribution : Contribution) (rest : List Contribution) :
    combinedNeeded (contribution :: rest) =
      contribution.needed + combinedNeeded rest := by
  simp [combinedNeeded]

@[simp]
theorem neededWhere_nil (test : Contribution → Bool) : neededWhere test [] = 0 := rfl

@[simp]
theorem neededWhere_cons (test : Contribution → Bool)
    (contribution : Contribution) (rest : List Contribution) :
    neededWhere test (contribution :: rest) =
      (if test contribution then contribution.needed else 0) +
        neededWhere test rest := by
  by_cases h : test contribution <;> simp [neededWhere, h]

@[simp]
theorem neededWhere_append (test : Contribution → Bool) (front back : List Contribution) :
    neededWhere test (front ++ back) =
      neededWhere test front + neededWhere test back := by
  simp [neededWhere, combinedNeeded]

theorem neededWhere_perm (test : Contribution → Bool)
    {left right : List Contribution} (hperm : left.Perm right) :
    neededWhere test left = neededWhere test right :=
  ((hperm.filter test).map Contribution.needed).sum_eq

/-- The effect of a stretch of an allocation loop on the stock and the lines. -/
structure Grants (warehouseId : ℕ) (before after : Db)
    (granted : List Contribution) : Prop where
  bins : after.bins = before.bins
  lines : after.salesOrderLines.rows = before.salesOrderLines.rows.map fun line =>
    line.addAllocated (neededBy line.soLineId granted)
  stock : ∀ itemId, pickableIn after itemId warehouseId =
    pickableIn before itemId warehouseId - neededOf itemId granted
  others : ∀ row ∈ before.inventory.rows,
    (∀ contribution ∈ granted, contribution.itemId ≠ row.itemId) → row ∈ after.inventory.rows
  rows : ∀ row ∈ after.inventory.rows,
    row.quantityOnHand < row.quantityAllocated → row ∈ before.inventory.rows

theorem Grants.refl (warehouseId : ℕ) (db : Db) : Grants warehouseId db db [] where
  bins := rfl
  lines := by simp [neededBy, SalesOrderLine.addAllocated]
  stock := by simp [neededOf]
  others := fun _ hrow _ => hrow
  rows := fun _ hrow _ => hrow

variable {warehouseId itemId : ℕ} {before middle after db : Db}
  {first second granted same contributions : List Contribution} {row : InventoryRow}
  {take pickRemaining : ℤ} {line : SalesOrderLine} {orders : List SalesOrder}

theorem Grants.trans (hfirst : Grants warehouseId before middle first)
    (hsecond : Grants warehouseId middle after second) :
    Grants warehouseId before after (first ++ second) where
  bins := hsecond.bins.trans hfirst.bins
  lines := by
    rw [hsecond.lines, hfirst.lines, List.map_map]
    refine List.map_congr_left fun line _ => ?_
    simp [SalesOrderLine.addAllocated, neededBy, add_assoc]
  stock := fun itemId => by
    rw [hsecond.stock, hfirst.stock, neededOf, neededOf, neededOf, neededWhere_append, sub_sub]
  others := fun row hrow hother =>
    hsecond.others row
      (hfirst.others row hrow fun contribution hmem =>
        hother contribution (List.mem_append_left _ hmem))
      fun contribution hmem => hother contribution (List.mem_append_right _ hmem)
  rows := fun row hrow hover => hfirst.rows row (hsecond.rows row hrow hover) hover

/-! ## One row -/

/-- A row the loops may reserve on. -/
def Stored (db : Db) (itemId warehouseId : ℕ) (row : InventoryRow) : Prop :=
  row ∈ db.inventory.rows ∧ row.itemId = itemId ∧ row.warehouseId = warehouseId ∧
    inPickableBin db row

theorem inPickableBin_congr {db' : Db} (hbins : db'.bins = db.bins)
    (row : InventoryRow) : inPickableBin db' row = inPickableBin db row := by
  rw [inPickableBin, inPickableBin, binOf?, binOf?, hbins]

/-- Reserving on a row takes the units from the pickable stock of its item. -/
theorem pickableIn_addAllocated (hrow : Stored db itemId warehouseId row)
    (hnonneg : 0 ≤ take) (htake : take ≤ row.available) (stamp : Option ℕ)
    (otherItem : ℕ) :
    pickableIn (addAllocated stamp take row.inventoryId db) otherItem warehouseId =
      pickableIn db otherItem warehouseId -
        if itemId = otherItem then take else 0 := by
  obtain ⟨hmem, hitem, hwarehouse, hbin⟩ := hrow
  have hfind := Table.find?_eq_some_iff.mpr ⟨hmem, rfl⟩
  have hbins : (addAllocated stamp take row.inventoryId db).bins = db.bins := rfl
  simp only [pickableIn, inPickableBin_congr hbins]
  simp only [addAllocated, Table.sum_updateKey, hfind, Option.elim_some]
  have hsame : inPickableBin db
      { row with
        quantityAllocated := row.quantityAllocated + take
        updatedAt := stamp.getD row.updatedAt } = inPickableBin db row := rfl
  by_cases hother : itemId = otherItem
  · subst hother
    simp only [InventoryRow.available] at htake ⊢
    simp only [hsame]
    simp only [hitem, hwarehouse, hbin, and_self, if_true]
    omega
  · have hne : row.itemId ≠ otherItem := hitem ▸ hother
    simp [hne, hother]

theorem mem_addAllocated_of_ne {inventoryId : ℕ} (hrow : row ∈ db.inventory.rows)
    (hne : row.inventoryId ≠ inventoryId) (stamp : Option ℕ) (take : ℤ) :
    row ∈ (addAllocated stamp take inventoryId db).inventory.rows :=
  List.mem_map.mpr ⟨row, hrow, by simp [hne]⟩

/-- A reservation within what the row has available reserves it no further than
what it holds. -/
theorem mem_of_mem_addAllocated {reserved : InventoryRow} {stamp : Option ℕ}
    (hrow : row ∈ db.inventory.rows) (htake : take ≤ row.available)
    (hreserved : reserved ∈ (addAllocated stamp take row.inventoryId db).inventory.rows)
    (hover : reserved.quantityOnHand < reserved.quantityAllocated) :
    reserved ∈ db.inventory.rows := by
  obtain ⟨stored, hstored, rfl⟩ := List.mem_map.mp hreserved
  by_cases hkey : stored.inventoryId = row.inventoryId
  · have hsame : stored = row :=
      List.inj_on_of_nodup_map db.inventory.keys_nodup hstored hrow hkey
    subst hsame
    simp only [InventoryRow.available] at htake
    simp only [decide_true, if_true] at hover
    omega
  · simpa [hkey] using hstored

/-- Reserving on a row what a contribution is granted. -/
theorem grants_take {stamp : Option ℕ} (hrow : Stored db itemId warehouseId row)
    (hnonneg : 0 ≤ take) (htake : take ≤ row.available) (hinventory : after.inventory =
      (addAllocated stamp take row.inventoryId db).inventory)
    (hbins : after.bins = db.bins)
    (hitems : ∀ contribution ∈ granted, contribution.itemId = itemId)
    (hsome : granted ≠ []) (htotal : combinedNeeded granted = take)
    (hlines : after.salesOrderLines.rows = db.salesOrderLines.rows.map fun line =>
      line.addAllocated (neededBy line.soLineId granted)) :
    Grants warehouseId db after granted where
  bins := hbins
  lines := hlines
  stock := fun otherItem => by
    have hsame : pickableIn after otherItem warehouseId =
        pickableIn (addAllocated stamp take row.inventoryId db) otherItem
          warehouseId := by
      rw [pickableIn, pickableIn, hinventory]
      refine Table.sum_congr _ fun stored _ => ?_
      rw [inPickableBin_congr hbins,
        inPickableBin_congr (show (addAllocated stamp take row.inventoryId
          db).bins = db.bins from rfl)]
    rw [hsame, pickableIn_addAllocated hrow hnonneg htake, neededOf, neededWhere]
    by_cases hother : itemId = otherItem
    · rw [if_pos hother, List.filter_eq_self.mpr fun contribution hmem => by
        simpa [hitems contribution hmem] using hother, htotal]
    · rw [if_neg hother, List.filter_eq_nil_iff.mpr fun contribution hmem => by
        simpa [hitems contribution hmem] using hother, combinedNeeded_nil]
  others := fun stored hstored hother => by
    obtain ⟨contribution, hmem⟩ := List.exists_mem_of_ne_nil _ hsome
    rw [hinventory]
    refine mem_addAllocated_of_ne hstored (fun hkey => ?_) stamp take
    have hsame : stored = row :=
      List.inj_on_of_nodup_map db.inventory.keys_nodup hstored hrow.1 hkey
    exact hother contribution hmem
      ((hitems contribution hmem).trans (hsame ▸ hrow.2.1.symm))
  rows := fun reserved hreserved hover => by
    rw [hinventory] at hreserved
    exact mem_of_mem_addAllocated hrow.1 htake hreserved hover

/-- Only what is granted to each line and taken from each item matters. -/
theorem Grants.congr (hgrants : Grants warehouseId before after granted)
    (hlines : ∀ soLineId, neededBy soLineId granted = neededBy soLineId same)
    (hstock : ∀ itemId, neededOf itemId granted = neededOf itemId same)
    (hitems : ∀ contribution ∈ granted, ∃ other ∈ same, other.itemId = contribution.itemId) :
    Grants warehouseId before after same where
  bins := hgrants.bins
  lines := by simp only [hgrants.lines, hlines]
  stock := fun itemId => by rw [hgrants.stock, hstock]
  others := fun row hrow hother =>
    hgrants.others row hrow fun contribution hmem hitem => by
      obtain ⟨other, hsame, hsameitem⟩ := hitems contribution hmem
      exact hother other hsame (hsameitem.trans hitem)
  rows := hgrants.rows

/-- A line's part of a grant is the same whatever the units. -/
def Contribution.withNeeded (contribution : Contribution) (units : ℤ) : Contribution :=
  { contribution with needed := units }

@[simp]
theorem Contribution.withNeeded_needed (contribution : Contribution) (units : ℤ) :
    (contribution.withNeeded units).needed = units := rfl

theorem neededWhere_withNeeded {Source : Type} {test : Contribution → Bool}
    (hstable : ∀ contribution units, test (contribution.withNeeded units) = test contribution)
    (contribution : Contribution) (takes : List (Source × ℤ)) :
    neededWhere test (takes.map fun take => contribution.withNeeded take.2) =
      if test contribution then (takes.map Prod.snd).sum else 0 := by
  induction takes with
  | nil => simp
  | cons take rest ih =>
      rw [List.map_cons, neededWhere_cons, ih, hstable]
      by_cases h : test contribution
      · simp [h, Contribution.withNeeded]
      · simp [h]

/-! ## The batch loop -/

/-- What an open line asks for. -/
def askOf (line : SalesOrderLine) : Contribution where
  itemId := line.itemId
  soId := line.soId
  soNumber := ""
  soLineId := line.soLineId
  needed := line.quantityOrdered - line.quantityAllocated

/-- The units of the tasks written for a line. -/
def taskUnits (soLineId : ℕ) (tasks : List PickTask) : ℤ :=
  ((tasks.filter fun task => task.soLineId? = some soLineId).map PickTask.quantityToPick).sum

theorem taskUnits_append (soLineId : ℕ) (front back : List PickTask) :
    taskUnits soLineId (front ++ back) =
      taskUnits soLineId front + taskUnits soLineId back := by
  simp [taskUnits]

/-- A stretch of the batch loop also writes tasks, for exactly what it grants. -/
structure BatchGrants (warehouseId : ℕ) (before after : Db)
    (granted : List Contribution) : Prop
    extends Grants warehouseId before after granted where
  tasks : ∃ written, after.pickTasks.rows = before.pickTasks.rows ++ written ∧
    ∀ soLineId, taskUnits soLineId written = neededBy soLineId granted

theorem BatchGrants.refl (warehouseId : ℕ) (db : Db) :
    BatchGrants warehouseId db db [] where
  toGrants := Grants.refl warehouseId db
  tasks := ⟨[], by simp, fun _ => rfl⟩

theorem BatchGrants.trans (hfirst : BatchGrants warehouseId before middle first)
    (hsecond : BatchGrants warehouseId middle after second) :
    BatchGrants warehouseId before after (first ++ second) where
  toGrants := hfirst.toGrants.trans hsecond.toGrants
  tasks := by
    obtain ⟨front, hfront, hfrontunits⟩ := hfirst.tasks
    obtain ⟨back, hback, hbackunits⟩ := hsecond.tasks
    refine ⟨front ++ back, by rw [hback, hfront, List.append_assoc],
      fun soLineId => ?_⟩
    rw [taskUnits_append, hfrontunits, hbackunits, neededBy, neededBy, neededBy, neededWhere_append]

theorem BatchGrants.congr (hgrants : BatchGrants warehouseId before after granted)
    (hlines : ∀ soLineId, neededBy soLineId granted = neededBy soLineId same)
    (hstock : ∀ itemId, neededOf itemId granted = neededOf itemId same)
    (hitems : ∀ contribution ∈ granted, ∃ other ∈ same, other.itemId = contribution.itemId) :
    BatchGrants warehouseId before after same where
  toGrants := hgrants.toGrants.congr hlines hstock hitems
  tasks := by
    obtain ⟨written, hrows, hunits⟩ := hgrants.tasks
    exact ⟨written, hrows, fun soLineId => (hunits soLineId).trans (hlines soLineId)⟩

theorem updateLine_addAllocated_rows (k : ℕ) (units : ℤ) (db : Db) :
    (updateLine (some k) (SalesOrderLine.addAllocated units) db).salesOrderLines.rows =
      db.salesOrderLines.rows.map fun line =>
        line.addAllocated (if k = line.soLineId then units else 0) := by
  simp only [updateLine, Table.updateKey, Table.update]
  refine List.map_congr_left fun line _ => ?_
  by_cases hkey : line.soLineId = k
  · simp [hkey]
  · have hne : ¬ k = line.soLineId := fun h => hkey h.symm
    simp [hkey, hne, SalesOrderLine.addAllocated]

theorem allocateTake_grants (batchId : ℕ) (tote : String) (take : InventoryRow × ℤ)
    (hrow : Stored db line.itemId warehouseId take.1) (hpos : 0 < take.2)
    (htake : take.2 ≤ take.1.available) :
    BatchGrants warehouseId db (allocateTake batchId tote line db take)
      [(askOf line).withNeeded take.2] where
  toGrants := by
    refine grants_take hrow hpos.le htake rfl rfl ?_ (List.cons_ne_nil _ _) ?_ ?_
    · intro contribution hmem
      rw [List.mem_singleton.mp hmem]
      rfl
    · simp [Contribution.withNeeded]
    · simp only [allocateTake, updateLine_addAllocated_rows, neededBy,
        neededWhere_cons, neededWhere_nil, add_zero]
      refine List.map_congr_left fun stored _ => ?_
      by_cases hkey : line.soLineId = stored.soLineId <;>
        simp [Contribution.withNeeded, askOf, hkey]
  tasks := by
    refine ⟨_, rfl, fun soLineId => ?_⟩
    by_cases hkey : line.soLineId = soLineId
    · simp [taskUnits, PickTask.soLineId?, neededBy, Contribution.withNeeded, askOf, hkey]
    · simp [taskUnits, PickTask.soLineId?, neededBy, Contribution.withNeeded, askOf, hkey]

/-- The walk over a line's rows grants what it draws. -/
theorem run_allocateTake_grants (batchId : ℕ) (tote : String) (line : SalesOrderLine)
    (need : ℤ) {rows : List InventoryRow}
    (hrows : ∀ row ∈ rows, Stored db line.itemId warehouseId row ∧
      0 < row.available) (hnodup : (rows.map InventoryRow.inventoryId).Nodup) :
    BatchGrants warehouseId db
      (run (allocateTake batchId tote line) db (draws InventoryRow.available need rows))
      ((draws InventoryRow.available need rows).map fun take =>
        (askOf line).withNeeded take.2) := by
  induction rows generalizing need db with
  | nil => exact BatchGrants.refl warehouseId db
  | cons row rest ih =>
      by_cases hneed : need ≤ 0
      · rw [draws_of_nonpos _ hneed]
        exact BatchGrants.refl warehouseId db
      · rw [List.map_cons, List.nodup_cons] at hnodup
        obtain ⟨hrow, havailable⟩ := hrows row List.mem_cons_self
        have htake : min need row.available ≤ row.available := min_le_right _ _
        have hpos : 0 < min need row.available := by omega
        have hfirst := allocateTake_grants batchId tote
          (row, min need row.available) hrow hpos htake
        have hrest : ∀ other ∈ rest, Stored
            (allocateTake batchId tote line db (row, min need row.available))
            line.itemId warehouseId other ∧ 0 < other.available := by
          intro other hother
          obtain ⟨⟨hmem, hitem, hwarehouse, hbin⟩, hother0⟩ :=
            hrows other (List.mem_cons_of_mem _ hother)
          have hne : other.inventoryId ≠ row.inventoryId := fun hkey =>
            hnodup.1 (hkey ▸ List.mem_map_of_mem hother)
          exact ⟨⟨mem_addAllocated_of_ne hmem hne none _, hitem, hwarehouse, hbin⟩, hother0⟩
        rw [draws_cons_of_pos _ (not_le.mp hneed)]
        exact hfirst.trans (ih _ hrest hnodup.2)

theorem pickableRows_stored :
    ∀ row ∈ pickableRows db itemId warehouseId,
      Stored db itemId warehouseId row ∧ 0 < row.available := by
  intro row hrow
  obtain ⟨hmem, hitem, hwarehouse, havailable, hbin⟩ := mem_pickableRows.mp hrow
  exact ⟨⟨hmem, hitem, hwarehouse, hbin⟩, havailable⟩

/-- Enough pickable stock: the line is granted all it asks for. -/
theorem allocateLine_grants (batchId : ℕ) (tote : String) (hask : 0 ≤ (askOf line).needed)
    (henough : (askOf line).needed ≤ pickableIn db line.itemId warehouseId) :
    BatchGrants warehouseId db (allocateLine batchId warehouseId tote db line)
      [askOf line] := by
  have hwalk := run_allocateTake_grants batchId tote line (askOf line).needed
    pickableRows_stored (pickableRows_nodup db line.itemId warehouseId)
  have hdrawn : drawn InventoryRow.available (askOf line).needed
      (pickableRows db line.itemId warehouseId) = (askOf line).needed := by
    refine drawn_eq_need _ hask (fun row hrow => ?_) ?_
    · exact (pickableRows_stored row hrow).2.le
    · exact henough.trans (totalAvailable_pickableRows db _ _).ge
  have hsame : ∀ test : Contribution → Bool,
      (∀ contribution units, test (contribution.withNeeded units) = test contribution) →
      neededWhere test ((draws InventoryRow.available (askOf line).needed
        (pickableRows db line.itemId warehouseId)).map fun take =>
          (askOf line).withNeeded take.2) = neededWhere test [askOf line] := by
    intro test hstable
    rw [neededWhere_withNeeded hstable]
    rw [drawn] at hdrawn
    simp [hdrawn]
  refine hwalk.congr (fun soLineId => hsame _ fun _ _ => rfl)
    (fun itemId => hsame _ fun _ _ => rfl) fun contribution hmem => ?_
  obtain ⟨take, -, rfl⟩ := List.mem_map.mp hmem
  exact ⟨askOf line, List.mem_singleton_self _, rfl⟩

theorem neededOf_nonneg (itemId : ℕ)
    (hnonneg : ∀ contribution ∈ contributions, 0 ≤ contribution.needed) :
    0 ≤ neededOf itemId contributions := by
  refine List.sum_nonneg fun units hunits => ?_
  obtain ⟨contribution, hmem, rfl⟩ := List.mem_map.mp hunits
  exact hnonneg contribution (List.mem_of_mem_filter hmem)

/-- Lines whose asks fit into the pickable stock are all granted in full. -/
theorem run_allocateLine_grants (batchId : ℕ) (tote : String)
    {lines : List SalesOrderLine} (hask : ∀ line ∈ lines, 0 ≤ (askOf line).needed)
    (henough : ∀ itemId, neededOf itemId (lines.map askOf) ≤ pickableIn db itemId warehouseId) :
    BatchGrants warehouseId db (run (allocateLine batchId warehouseId tote) db lines)
      (lines.map askOf) := by
  induction lines generalizing db with
  | nil => exact BatchGrants.refl warehouseId db
  | cons line rest ih =>
      have hline := hask line List.mem_cons_self
      have hrest : ∀ other ∈ rest, 0 ≤ (askOf other).needed := fun other hother =>
        hask other (List.mem_cons_of_mem _ hother)
      have hsplit : ∀ itemId, neededOf itemId ((line :: rest).map askOf) =
          neededOf itemId [askOf line] + neededOf itemId (rest.map askOf) := by
        intro itemId
        simp [neededOf]
      have hfirst : BatchGrants warehouseId db
          (allocateLine batchId warehouseId tote db line) [askOf line] := by
        refine allocateLine_grants batchId tote hline ?_
        have hitem := henough line.itemId
        have hnonneg : 0 ≤ neededOf line.itemId (rest.map askOf) :=
          neededOf_nonneg _ (by simpa using hrest)
        have hself : neededOf line.itemId [askOf line] = (askOf line).needed := by
          simp [neededOf, askOf]
        rw [hsplit, hself] at hitem
        omega
      refine hfirst.trans (ih hrest fun itemId => ?_)
      have hitem := henough itemId
      rw [hsplit] at hitem
      rw [hfirst.stock]
      omega

theorem openLines_ask_pos {soId : ℕ} : ∀ line ∈ openLines db soId, 0 < (askOf line).needed := by
  intro line hline
  have hopen := (mem_openLines.mp hline).2.2
  simp only [askOf]
  omega

/-- What an order asks for. -/
def asksOf (db : Db) (order : SalesOrder × String) : List Contribution :=
  (openLines db order.1.soId).map askOf

/-- The lines of an order nothing was granted to are open as before. -/
theorem openLines_of_grants {soId : ℕ} (hgrants : Grants warehouseId before after granted)
    (hnone : ∀ line ∈ before.salesOrderLines.rows, line.soId = soId →
      neededBy line.soLineId granted = 0) :
    openLines after soId = openLines before soId := by
  simp only [openLines, Table.select, hgrants.lines]
  generalize before.salesOrderLines.rows = stored at hnone ⊢
  induction stored with
  | nil => rfl
  | cons line rest ih =>
      rw [List.map_cons, List.filter_cons, List.filter_cons,
        ih fun other hother => hnone other (List.mem_cons_of_mem _ hother)]
      by_cases howner : line.soId = soId
      · rw [hnone line List.mem_cons_self howner]
        simp [SalesOrderLine.addAllocated]
      · simp [SalesOrderLine.addAllocated, howner]

theorem neededBy_eq_zero {soLineId : ℕ}
    (hnone : ∀ contribution ∈ contributions, contribution.soLineId ≠ soLineId) :
    neededBy soLineId contributions = 0 := by
  rw [neededBy, neededWhere, List.filter_eq_nil_iff.mpr fun contribution hmem => by
    simpa using hnone contribution hmem, combinedNeeded_nil]

/-- An order asks nothing for the lines of another. -/
theorem neededBy_asksOf_other {order : SalesOrder × String}
    (hline : line ∈ db.salesOrderLines.rows) (hother : line.soId ≠ order.1.soId) :
    neededBy line.soLineId (asksOf db order) = 0 := by
  refine neededBy_eq_zero fun contribution hmem hkey => ?_
  obtain ⟨asked, hasked, rfl⟩ := List.mem_map.mp hmem
  obtain ⟨hstored, howner, -⟩ := mem_openLines.mp hasked
  have hsame : asked = line :=
    List.inj_on_of_nodup_map db.salesOrderLines.keys_nodup hstored hline hkey
  exact hother (hsame ▸ howner)

/-- Orders whose asks fit into the pickable stock are all granted in full. -/
theorem allocateOrders_grants (batchId : ℕ) {orders : List (SalesOrder × String)}
    (hnodup : (orders.map fun order => order.1.soId).Nodup)
    (henough : ∀ itemId, neededOf itemId (orders.flatMap (asksOf db)) ≤
      pickableIn db itemId warehouseId) :
    BatchGrants warehouseId db (allocateOrders batchId warehouseId db orders)
      (orders.flatMap (asksOf db)) := by
  induction orders generalizing db with
  | nil => exact BatchGrants.refl warehouseId db
  | cons order rest ih =>
      rw [List.map_cons, List.nodup_cons] at hnodup
      have hasks : ∀ contribution ∈ rest.flatMap (asksOf db),
          0 ≤ contribution.needed := by
        intro contribution hmem
        obtain ⟨other, -, hother⟩ := List.mem_flatMap.mp hmem
        obtain ⟨line, hline, rfl⟩ := List.mem_map.mp hother
        exact (openLines_ask_pos line hline).le
      have hfirst : BatchGrants warehouseId db
          (allocateOrder batchId warehouseId db order) (asksOf db order) := by
        refine run_allocateLine_grants batchId order.2
          (fun line hline => (openLines_ask_pos line hline).le) fun itemId => ?_
        have hitem := henough itemId
        have hnonneg := neededOf_nonneg itemId hasks
        rw [List.flatMap_cons, neededOf, neededWhere_append] at hitem
        simp only [neededOf] at hnonneg ⊢
        exact le_of_add_le_of_nonneg_left hitem hnonneg
      have hrest : rest.flatMap (asksOf (allocateOrder batchId warehouseId db
          order)) = rest.flatMap (asksOf db) := by
        refine List.flatMap_congr fun other hother => ?_
        have hdistinct : other.1.soId ≠ order.1.soId := fun h =>
          hnodup.1 (h ▸ List.mem_map_of_mem
            (f := fun order : SalesOrder × String => order.1.soId) hother)
        rw [asksOf, asksOf, openLines_of_grants hfirst.toGrants]
        intro line hline howner
        exact neededBy_asksOf_other hline (howner ▸ hdistinct)
      rw [List.flatMap_cons]
      refine hfirst.trans ?_
      rw [← hrest]
      refine ih hnodup.2 fun itemId => ?_
      have hitem := henough itemId
      rw [List.flatMap_cons, neededOf, neededWhere_append] at hitem
      rw [hrest, hfirst.stock]
      simp only [neededOf]
      omega

/-! ## The wave loop -/

/-- The units of the breakdown rows written for a line. -/
def shareUnits (soLineId : ℕ) (rows : List WavePickBreakdown) : ℤ :=
  ((rows.filter fun share => share.soLineId = some soLineId).map WavePickBreakdown.quantity).sum

/-- The units of a task's breakdown rows. -/
def breakdownUnits (pickTaskId : ℕ) (rows : List WavePickBreakdown) : ℤ :=
  ((rows.filter fun share => share.pickTaskId = pickTaskId).map WavePickBreakdown.quantity).sum

theorem shareUnits_append (soLineId : ℕ) (front back : List WavePickBreakdown) :
    shareUnits soLineId (front ++ back) =
      shareUnits soLineId front + shareUnits soLineId back := by
  simp [shareUnits]

theorem breakdownUnits_append (pickTaskId : ℕ) (front back : List WavePickBreakdown) :
    breakdownUnits pickTaskId (front ++ back) =
      breakdownUnits pickTaskId front + breakdownUnits pickTaskId back := by
  simp [breakdownUnits]

theorem breakdownUnits_eq_zero {pickTaskId : ℕ} {rows : List WavePickBreakdown}
    (hnone : ∀ share ∈ rows, share.pickTaskId ≠ pickTaskId) :
    breakdownUnits pickTaskId rows = 0 := by
  rw [breakdownUnits, List.filter_eq_nil_iff.mpr fun share hmem => by
    simpa using hnone share hmem]
  rfl

/-- A stretch of the wave loop also writes tasks, and breakdown rows of these
tasks: for each line what it is granted, for each task what it picks. -/
structure WaveGrants (warehouseId : ℕ) (before after : Db)
    (granted : List Contribution) (tasks : List PickTask)
    (breakdown : List WavePickBreakdown) : Prop
    extends Grants warehouseId before after granted where
  tasks_eq : after.pickTasks.rows = before.pickTasks.rows ++ tasks
  breakdown_eq : after.wavePickBreakdown.rows = before.wavePickBreakdown.rows ++ breakdown
  nextKey_le : before.pickTasks.nextKey ≤ after.pickTasks.nextKey
  tasks_new : ∀ task ∈ tasks, before.pickTasks.nextKey ≤ task.pickTaskId ∧
    task.pickTaskId < after.pickTasks.nextKey
  breakdown_new : ∀ share ∈ breakdown, before.pickTasks.nextKey ≤ share.pickTaskId ∧
    share.pickTaskId < after.pickTasks.nextKey
  by_line : ∀ soLineId, shareUnits soLineId breakdown = neededBy soLineId granted
  by_task : ∀ task ∈ tasks, breakdownUnits task.pickTaskId breakdown = task.quantityToPick

theorem WaveGrants.refl (warehouseId : ℕ) (db : Db) :
    WaveGrants warehouseId db db [] [] [] where
  toGrants := Grants.refl warehouseId db
  tasks_eq := by simp
  breakdown_eq := by simp
  nextKey_le := le_rfl
  tasks_new := by simp
  breakdown_new := by simp
  by_line := fun _ => rfl
  by_task := by simp

theorem WaveGrants.trans {front back : List PickTask} {shares moreShares : List WavePickBreakdown}
    (hfirst : WaveGrants warehouseId before middle first front shares)
    (hsecond : WaveGrants warehouseId middle after second back moreShares) :
    WaveGrants warehouseId before after (first ++ second) (front ++ back)
      (shares ++ moreShares) where
  toGrants := hfirst.toGrants.trans hsecond.toGrants
  tasks_eq := by rw [hsecond.tasks_eq, hfirst.tasks_eq, List.append_assoc]
  breakdown_eq := by rw [hsecond.breakdown_eq, hfirst.breakdown_eq, List.append_assoc]
  nextKey_le := hfirst.nextKey_le.trans hsecond.nextKey_le
  tasks_new := fun task htask => by
    have hmiddle := hfirst.nextKey_le
    have hafter := hsecond.nextKey_le
    cases List.mem_append.mp htask with
    | inl hold =>
        have := hfirst.tasks_new task hold
        omega
    | inr hnew =>
        have := hsecond.tasks_new task hnew
        omega
  breakdown_new := fun share hshare => by
    have hmiddle := hfirst.nextKey_le
    have hafter := hsecond.nextKey_le
    cases List.mem_append.mp hshare with
    | inl hold =>
        have := hfirst.breakdown_new share hold
        omega
    | inr hnew =>
        have := hsecond.breakdown_new share hnew
        omega
  by_line := fun soLineId => by
    rw [shareUnits_append, hfirst.by_line, hsecond.by_line, neededBy, neededBy,
      neededBy, neededWhere_append]
  by_task := fun task htask => by
    rw [breakdownUnits_append]
    cases List.mem_append.mp htask with
    | inl hold =>
        have hrange := hfirst.tasks_new task hold
        rw [hfirst.by_task task hold, breakdownUnits_eq_zero, add_zero]
        intro share hshare hkey
        have := hsecond.breakdown_new share hshare
        omega
    | inr hnew =>
        have hrange := hsecond.tasks_new task hnew
        rw [hsecond.by_task task hnew, breakdownUnits_eq_zero, zero_add]
        intro share hshare hkey
        have := hfirst.breakdown_new share hshare
        omega

theorem WaveGrants.congr {tasks : List PickTask} {breakdown : List WavePickBreakdown}
    (hgrants : WaveGrants warehouseId before after granted tasks breakdown)
    (hlines : ∀ soLineId, neededBy soLineId granted = neededBy soLineId same)
    (hstock : ∀ itemId, neededOf itemId granted = neededOf itemId same)
    (hitems : ∀ contribution ∈ granted, ∃ other ∈ same, other.itemId = contribution.itemId) :
    WaveGrants warehouseId before after same tasks breakdown :=
  { hgrants with
    toGrants := hgrants.toGrants.congr hlines hstock hitems
    by_line := fun soLineId => (hgrants.by_line soLineId).trans (hlines soLineId) }

/-! ### Sharing a pick out -/

/-- The shares, as what they grant. -/
def sharedOut (pickRemaining : ℤ) (contributions : List Contribution) : List Contribution :=
  (shares pickRemaining contributions).map fun share => share.1.withNeeded share.2

/-- What is shared out and what is still needed make up what was needed. -/
theorem neededWhere_shares (test : Contribution → Bool)
    (hstable : ∀ contribution units, test (contribution.withNeeded units) = test contribution)
    (pickRemaining : ℤ) (contributions : List Contribution) :
    neededWhere test (sharedOut pickRemaining contributions) +
        neededWhere test (spend pickRemaining contributions) =
      neededWhere test contributions := by
  induction contributions generalizing pickRemaining with
  | nil => rfl
  | cons contrib rest ih =>
      by_cases hdone : pickRemaining ≤ 0
      · simp [sharedOut, shares, spend, hdone]
      · by_cases hnone : min pickRemaining contrib.needed ≤ 0
        · have hrest := ih pickRemaining
          simp only [sharedOut] at hrest
          simp only [sharedOut, shares, spend, if_neg hdone, if_pos hnone, neededWhere_cons]
          omega
        · have hrest := ih (pickRemaining - min pickRemaining contrib.needed)
          have htest := hstable contrib (min pickRemaining contrib.needed)
          have hleft := hstable contrib (contrib.needed - min pickRemaining contrib.needed)
          simp only [sharedOut] at hrest
          simp only [sharedOut, shares, spend, if_neg hdone, if_neg hnone,
            List.map_cons, neededWhere_cons, htest]
          simp only [Contribution.withNeeded] at hleft
          rw [hleft, Contribution.withNeeded_needed]
          by_cases h : test contrib
          · simp only [h, if_true]
            omega
          · simpa [h] using hrest

theorem combinedNeeded_eq_where (contributions : List Contribution) :
    combinedNeeded contributions = neededWhere (fun _ => true) contributions := by
  simp [neededWhere]

theorem spend_nonneg (hnonneg : ∀ contribution ∈ contributions, 0 ≤ contribution.needed) :
    ∀ contribution ∈ spend pickRemaining contributions,
      0 ≤ contribution.needed := by
  induction contributions generalizing pickRemaining with
  | nil => simp [spend]
  | cons contrib rest ih =>
      have hhead := hnonneg contrib List.mem_cons_self
      have hrest := fun other hother => hnonneg other (List.mem_cons_of_mem contrib hother)
      by_cases hdone : pickRemaining ≤ 0
      · simpa [spend, hdone] using hnonneg
      · by_cases hnone : min pickRemaining contrib.needed ≤ 0
        · simp only [spend, if_neg hdone, if_pos hnone, List.forall_mem_cons]
          exact ⟨hhead, ih hrest⟩
        · simp only [spend, if_neg hdone, if_neg hnone, List.forall_mem_cons]
          exact ⟨by omega, ih hrest⟩

/-- A pick that is no larger than what is needed is shared out in full. -/
theorem combinedNeeded_sharedOut (hnonneg : ∀ contribution ∈ contributions, 0 ≤ contribution.needed)
    (hpick : 0 ≤ pickRemaining) (hle : pickRemaining ≤ combinedNeeded contributions) :
    combinedNeeded (sharedOut pickRemaining contributions) = pickRemaining := by
  induction contributions generalizing pickRemaining with
  | nil =>
      have hzero : pickRemaining = 0 := le_antisymm hle hpick
      simp [sharedOut, shares, hzero]
  | cons contrib rest ih =>
      have hhead := hnonneg contrib List.mem_cons_self
      have hrest := fun other hother => hnonneg other (List.mem_cons_of_mem contrib hother)
      rw [combinedNeeded_cons] at hle
      by_cases hdone : pickRemaining ≤ 0
      · have hzero : pickRemaining = 0 := le_antisymm hdone hpick
        simp [sharedOut, shares, hzero]
      · have hothers : 0 ≤ combinedNeeded rest :=
          List.sum_nonneg (by simpa using hrest)
        by_cases hnone : min pickRemaining contrib.needed ≤ 0
        · have hshares := ih hrest hpick (by omega)
          simpa only [sharedOut, shares, if_neg hdone, if_pos hnone] using hshares
        · have hleft : 0 ≤ pickRemaining - min pickRemaining contrib.needed := by
            omega
          have hshares := ih hrest hleft (by omega)
          simp only [sharedOut] at hshares
          simp only [sharedOut, shares, if_neg hdone, if_neg hnone, List.map_cons,
            combinedNeeded_cons, hshares, Contribution.withNeeded_needed]
          omega

/-- The breakdown rows of a task, and what they add to the lines. -/
theorem run_writeShare (pickTaskId : ℕ) (given : List (Contribution × ℤ)) (db : Db) :
    let after := run (writeShare pickTaskId) db given
    let grants := given.map fun share => share.1.withNeeded share.2
    (after.inventory = db.inventory ∧ after.bins = db.bins ∧ after.pickTasks = db.pickTasks) ∧
    (after.salesOrderLines.rows = db.salesOrderLines.rows.map fun line =>
      line.addAllocated (neededBy line.soLineId grants)) ∧
    ∃ breakdown, after.wavePickBreakdown.rows = db.wavePickBreakdown.rows ++ breakdown ∧
      (∀ share ∈ breakdown, share.pickTaskId = pickTaskId) ∧
      (∀ soLineId, shareUnits soLineId breakdown = neededBy soLineId grants) ∧
      (breakdown.map WavePickBreakdown.quantity).sum = combinedNeeded grants := by
  induction given generalizing db with
  | nil =>
      refine ⟨⟨rfl, rfl, rfl⟩, ?_, [], by simp [run], by simp, fun _ => rfl, rfl⟩
      simp [run, neededBy, SalesOrderLine.addAllocated]
  | cons share rest ih =>
      obtain ⟨⟨hinventory, hbins, htasks⟩, hlines, breakdown, hrows, hown, hby,
        hsum⟩ := ih (writeShare pickTaskId db share)
      refine ⟨⟨hinventory, hbins, htasks⟩, ?_,
        { id := db.wavePickBreakdown.nextKey
          pickTaskId := pickTaskId
          soId := share.1.soId
          soLineId := some share.1.soLineId
          quantity := share.2 } :: breakdown, ?_, ?_, ?_, ?_⟩
      · refine hlines.trans ?_
        rw [writeShare, updateLine_addAllocated_rows, List.map_map]
        refine List.map_congr_left fun line _ => ?_
        by_cases hkey : share.1.soLineId = line.soLineId <;>
          simp [SalesOrderLine.addAllocated, neededBy, Contribution.withNeeded, hkey, add_assoc]
      · exact hrows.trans (List.append_assoc _ [_] _)
      · exact List.forall_mem_cons.mpr ⟨rfl, hown⟩
      · intro soLineId
        have hrest := hby soLineId
        simp only [shareUnits] at hrest
        by_cases hkey : share.1.soLineId = soLineId
        · simp only [shareUnits, List.filter_cons, hkey, decide_true, if_true,
            List.map_cons, List.sum_cons, hrest, neededBy, neededWhere_cons,
            Contribution.withNeeded]
        · simp [shareUnits, hrest, neededBy, Contribution.withNeeded, hkey]
      · simp only [List.map_cons, List.sum_cons, hsum, combinedNeeded_cons,
          Contribution.withNeeded_needed]

theorem shares_mem {share : Contribution × ℤ}
    (hshare : share ∈ shares pickRemaining contributions) :
    share.1 ∈ contributions := by
  induction contributions generalizing pickRemaining with
  | nil => simp [shares] at hshare
  | cons contrib rest ih =>
      by_cases hdone : pickRemaining ≤ 0
      · simp [shares, hdone] at hshare
      · by_cases hnone : min pickRemaining contrib.needed ≤ 0
        · rw [shares, if_neg hdone, if_pos hnone] at hshare
          exact List.mem_cons_of_mem _ (ih hshare)
        · rw [shares, if_neg hdone, if_neg hnone] at hshare
          cases List.mem_cons.mp hshare with
          | inl hhead => exact hhead ▸ List.mem_cons_self
          | inr hrest => exact List.mem_cons_of_mem _ (ih hrest)

theorem spend_itemId {itemId pickRemaining}
    (hitems : ∀ contribution ∈ contributions, contribution.itemId = itemId) :
    ∀ contribution ∈ spend pickRemaining contributions,
      contribution.itemId = itemId := by
  induction contributions generalizing pickRemaining with
  | nil => simp [spend]
  | cons contrib rest ih =>
      have hhead := hitems contrib List.mem_cons_self
      have hrest := fun other hother => hitems other (List.mem_cons_of_mem contrib hother)
      by_cases hdone : pickRemaining ≤ 0
      · simpa [spend, hdone] using hitems
      · by_cases hnone : min pickRemaining contrib.needed ≤ 0
        · simp only [spend, if_neg hdone, if_pos hnone, List.forall_mem_cons]
          exact ⟨hhead, ih hrest⟩
        · simp only [spend, if_neg hdone, if_neg hnone, List.forall_mem_cons]
          exact ⟨hhead, ih hrest⟩

/-- The combined task of a wave take. -/
def waveTask (batchId : ℕ) (first : Contribution) (pickSequence : ℤ)
    (take : InventoryRow × ℤ) (pickTaskId : ℕ) : PickTask where
  pickTaskId := pickTaskId
  batchId := batchId
  target := .salesOrder first.soId (some first.soLineId)
  itemId := first.itemId
  binId := take.1.binId
  quantityToPick := take.2
  pickSequence := pickSequence
  toteNumber := some "WAVE"

/-- Sharing a pick out lowers what is needed by the pick. -/
theorem combinedNeeded_spend (hnonneg : ∀ contribution ∈ contributions, 0 ≤ contribution.needed)
    (hpick : 0 ≤ pickRemaining) (hle : pickRemaining ≤ combinedNeeded contributions) :
    combinedNeeded (spend pickRemaining contributions) =
      combinedNeeded contributions - pickRemaining := by
  have hshared := combinedNeeded_sharedOut hnonneg hpick hle
  have hsum := neededWhere_shares (fun _ => true) (fun _ _ => rfl) pickRemaining contributions
  rw [← combinedNeeded_eq_where, ← combinedNeeded_eq_where,
    ← combinedNeeded_eq_where, hshared] at hsum
  exact eq_sub_of_add_eq' hsum

/-- A take leaves the other rows as they were planned. -/
theorem stored_allocateWaveTake (hrow : Stored db itemId warehouseId row) (batchId : ℕ)
    (first : Contribution) (contributions : List Contribution) {take : InventoryRow × ℤ}
    (hne : row.inventoryId ≠ take.1.inventoryId) :
    Stored (allocateWaveTake batchId first (db, contributions) take).1 itemId
      warehouseId row := by
  obtain ⟨hmem, hitem, hwarehouse, hbin⟩ := hrow
  obtain ⟨hinventory, hbins, -⟩ := (run_writeShare _ _ _).1
  refine ⟨?_, hitem, hwarehouse, ?_⟩
  · rw [allocateWaveTake, hinventory]
    exact mem_addAllocated_of_ne hmem hne none _
  · rw [allocateWaveTake, inPickableBin_congr hbins]
    exact hbin

/-- One bin row of a wave item: its task is shared out in full. -/
theorem allocateWaveTake_grants (batchId : ℕ) {first : Contribution}
    (take : InventoryRow × ℤ) (hrow : Stored db first.itemId warehouseId take.1)
    (hpos : 0 < take.2) (htake : take.2 ≤ take.1.available)
    (hitems : ∀ contribution ∈ contributions, contribution.itemId = first.itemId)
    (hnonneg : ∀ contribution ∈ contributions, 0 ≤ contribution.needed)
    (hle : take.2 ≤ combinedNeeded contributions) :
    ∃ tasks breakdown, WaveGrants warehouseId db
      (allocateWaveTake batchId first (db, contributions) take).1
      (sharedOut take.2 contributions) tasks breakdown := by
  have htotal := combinedNeeded_sharedOut hnonneg hpos.le hle
  obtain ⟨⟨hinventory, hbins, htasks⟩, hlines, breakdown, hrows, hown, hby, hsum⟩ :=
    run_writeShare db.pickTasks.nextKey (shares take.2 contributions)
      { addAllocated none take.2 take.1.inventoryId db with
        pickTasks := db.pickTasks.insert
          (waveTask batchId first (pickSequenceOf db take.1) take) fun _ => rfl }
  have hnext : (allocateWaveTake batchId first (db, contributions)
      take).1.pickTasks.nextKey = db.pickTasks.nextKey + 1 := by
    rw [allocateWaveTake]
    exact congrArg Table.nextKey htasks
  refine ⟨[waveTask batchId first (pickSequenceOf db take.1) take
    db.pickTasks.nextKey], breakdown, ?_⟩
  exact
    { toGrants := by
        refine grants_take hrow hpos.le htake hinventory hbins ?_ ?_ htotal hlines
        · intro contribution hmem
          obtain ⟨share, hshare, rfl⟩ := List.mem_map.mp hmem
          exact hitems share.1 (shares_mem hshare)
        · intro hnil
          rw [hnil] at htotal
          simp only [combinedNeeded_nil] at htotal
          omega
      tasks_eq := by
        rw [allocateWaveTake]
        exact congrArg Table.rows htasks
      breakdown_eq := hrows
      nextKey_le := by
        rw [hnext]
        exact Nat.le_succ _
      tasks_new := by
        rw [hnext]
        intro task htask
        rw [List.mem_singleton.mp htask]
        exact ⟨le_rfl, Nat.lt_succ_self _⟩
      breakdown_new := by
        rw [hnext]
        intro share hshare
        rw [hown share hshare]
        exact ⟨le_rfl, Nat.lt_succ_self _⟩
      by_line := hby
      by_task := by
        intro task htask
        have hall : breakdown.filter (fun share =>
            share.pickTaskId = db.pickTasks.nextKey) = breakdown :=
          List.filter_eq_self.mpr fun share hshare => by
            simpa using hown share hshare
        rw [List.mem_singleton.mp htask, breakdownUnits, waveTask, hall, hsum]
        exact htotal }

/-- The walk over an item's planned rows: what it grants and what is still
needed make up what was needed. -/
theorem run_allocateWaveTake_grants (batchId : ℕ) {first : Contribution}
    {rows : List InventoryRow}
    (hrows : ∀ row ∈ rows, Stored db first.itemId warehouseId row ∧
      0 < row.available) (hnodup : (rows.map InventoryRow.inventoryId).Nodup)
    (hitems : ∀ contribution ∈ contributions, contribution.itemId = first.itemId)
    (hnonneg : ∀ contribution ∈ contributions, 0 ≤ contribution.needed) :
    ∃ granted tasks breakdown,
      (let walked := run (allocateWaveTake batchId first) (db, contributions)
        (draws InventoryRow.available (combinedNeeded contributions) rows)
      WaveGrants warehouseId db walked.1 granted tasks breakdown ∧
      (∀ contribution ∈ granted, contribution.itemId = first.itemId) ∧
      (∀ contribution ∈ walked.2, 0 ≤ contribution.needed) ∧
      combinedNeeded walked.2 = combinedNeeded contributions -
        drawn InventoryRow.available (combinedNeeded contributions) rows ∧
      ∀ test : Contribution → Bool, (∀ contribution units,
          test (contribution.withNeeded units) = test contribution) →
        neededWhere test granted + neededWhere test walked.2 =
          neededWhere test contributions) := by
  induction rows generalizing db contributions with
  | nil =>
      exact ⟨[], [], [], WaveGrants.refl warehouseId db, by simp, hnonneg,
        by simp [draws, drawn, run], fun test _ => by simp [draws, run]⟩
  | cons row rest ih =>
      by_cases hneed : combinedNeeded contributions ≤ 0
      · rw [drawn, draws_of_nonpos _ hneed]
        exact ⟨[], [], [], WaveGrants.refl warehouseId db, by simp, hnonneg,
          by simp [run], fun test _ => by simp [run]⟩
      · rw [List.map_cons, List.nodup_cons] at hnodup
        obtain ⟨hrow, havailable⟩ := hrows row List.mem_cons_self
        have hpos : 0 < min (combinedNeeded contributions) row.available := by
          omega
        have htake : min (combinedNeeded contributions) row.available ≤
            combinedNeeded contributions := min_le_left _ _
        obtain ⟨tasks, breakdown, hfirst⟩ := allocateWaveTake_grants batchId
          (row, min (combinedNeeded contributions) row.available) hrow hpos
          (min_le_right _ _) hitems hnonneg htake
        have hrest : ∀ other ∈ rest, Stored
            (allocateWaveTake batchId first (db, contributions)
              (row, min (combinedNeeded contributions) row.available)).1
            first.itemId warehouseId other ∧ 0 < other.available := by
          intro other hother
          obtain ⟨hstored, hother0⟩ := hrows other (List.mem_cons_of_mem _ hother)
          have hne : other.inventoryId ≠ row.inventoryId := fun hkey =>
            hnodup.1 (hkey ▸ List.mem_map_of_mem hother)
          exact ⟨stored_allocateWaveTake hstored batchId first contributions hne, hother0⟩
        obtain ⟨granted, moreTasks, moreShares, hgrants, hsame, hnonneg', hleft,
          hconserved⟩ := ih hrest hnodup.2 (spend_itemId hitems) (spend_nonneg hnonneg)
        have hspent := combinedNeeded_spend hnonneg hpos.le htake
        rw [drawn, draws_cons_of_pos _ (not_le.mp hneed), ← hspent]
        refine ⟨_, _, _, hfirst.trans hgrants, ?_, hnonneg', ?_, ?_⟩
        · intro contribution hmem
          cases List.mem_append.mp hmem with
          | inl hshared =>
              obtain ⟨share, hshare, rfl⟩ := List.mem_map.mp hshared
              exact hitems share.1 (shares_mem hshare)
          | inr hlater => exact hsame contribution hlater
        · refine hleft.trans ?_
          rw [List.map_cons, List.sum_cons, ← drawn, hspent]
          exact sub_sub _ _ _
        · intro test hstable
          have hhere := neededWhere_shares test hstable
            (min (combinedNeeded contributions) row.available) contributions
          have hlater := hconserved test hstable
          rw [neededWhere_append]
          exact (add_assoc _ _ _).trans ((congrArg _ hlater).trans hhere)

theorem neededWhere_eq_zero {test : Contribution → Bool}
    (hnonneg : ∀ contribution ∈ contributions, 0 ≤ contribution.needed)
    (hzero : combinedNeeded contributions = 0) :
    neededWhere test contributions = 0 := by
  induction contributions with
  | nil => rfl
  | cons contribution rest ih =>
      have hhead := hnonneg contribution List.mem_cons_self
      have hrest := fun other hother => hnonneg other (List.mem_cons_of_mem contribution hother)
      have hsum : 0 ≤ combinedNeeded rest := List.sum_nonneg (by simpa using hrest)
      rw [combinedNeeded_cons] at hzero
      rw [neededWhere_cons, ih hrest (by omega), add_zero]
      split
      · omega
      · rfl

/-- What the planner says of an item the wave is about to allocate. -/
structure Planned (db : Db) (warehouseId : ℕ)
    (group : (ℕ × List Contribution) × List InventoryRow) : Prop where
  items : ∀ contribution ∈ group.1.2, contribution.itemId = group.1.1
  asks : ∀ contribution ∈ group.1.2, 0 ≤ contribution.needed
  nodup : (group.2.map InventoryRow.inventoryId).Nodup
  rows : ∀ row ∈ group.2, Stored db group.1.1 warehouseId row ∧ 0 < row.available
  enough : combinedNeeded group.1.2 ≤ totalAvailable group.2

/-- Enough planned stock: every contributor of the item is granted in full. -/
theorem allocateWaveItem_grants (batchId : ℕ) {group : (ℕ × List Contribution) × List InventoryRow}
    (hplanned : Planned db warehouseId group) :
    ∃ tasks breakdown, WaveGrants warehouseId db
      (allocateWaveItem batchId group.2 db group.1.2) group.1.2 tasks
        breakdown := by
  obtain ⟨⟨itemId, contributions⟩, rows⟩ := group
  cases contributions with
  | nil => exact ⟨[], [], WaveGrants.refl warehouseId db⟩
  | cons first others =>
      have hfirst : first.itemId = itemId := hplanned.items first List.mem_cons_self
      have hneed : 0 ≤ combinedNeeded (first :: others) :=
        List.sum_nonneg (by simpa using hplanned.asks)
      obtain ⟨granted, tasks, breakdown, hgrants, hitems, hnonneg, hleft,
        hconserved⟩ := run_allocateWaveTake_grants batchId
          (fun row hrow => hfirst ▸ hplanned.rows row hrow) hplanned.nodup
          (fun contribution hmem => (hplanned.items contribution hmem).trans hfirst.symm)
          hplanned.asks
      have hdrawn : drawn InventoryRow.available (combinedNeeded (first :: others))
          rows = combinedNeeded (first :: others) :=
        drawn_eq_need _ hneed (fun row hrow => (hplanned.rows row hrow).2.le) hplanned.enough
      rw [hdrawn, sub_self] at hleft
      have hall : ∀ test : Contribution → Bool,
          (∀ contribution units, test (contribution.withNeeded units) = test contribution) →
          neededWhere test granted = neededWhere test (first :: others) := by
        intro test hstable
        have htotal := hconserved test hstable
        rwa [neededWhere_eq_zero hnonneg hleft, add_zero] at htotal
      refine ⟨tasks, breakdown, hgrants.congr (fun _ => hall _ fun _ _ => rfl)
        (fun _ => hall _ fun _ _ => rfl) fun contribution hmem => ?_⟩
      exact ⟨first, List.mem_cons_self, (hitems contribution hmem).symm⟩

/-- A wave whose items are all covered grants every contributor in full. -/
theorem allocateWave_grants (batchId : ℕ)
    {groups : List ((ℕ × List Contribution) × List InventoryRow)}
    (hkeys : (groups.map fun group => group.1.1).Nodup)
    (hplanned : ∀ group ∈ groups, Planned db warehouseId group) :
    ∃ tasks breakdown, WaveGrants warehouseId db (allocateWave batchId db groups)
      (groups.flatMap fun group => group.1.2) tasks breakdown := by
  induction groups generalizing db with
  | nil => exact ⟨[], [], WaveGrants.refl warehouseId db⟩
  | cons group rest ih =>
      rw [List.map_cons, List.nodup_cons] at hkeys
      have hhead := hplanned group List.mem_cons_self
      obtain ⟨tasks, breakdown, hfirst⟩ := allocateWaveItem_grants batchId hhead
      have hrest : ∀ other ∈ rest, Planned
          (allocateWaveItem batchId group.2 db group.1.2) warehouseId other := by
        intro other hother
        have hplan := hplanned other (List.mem_cons_of_mem _ hother)
        refine { hplan with rows := fun row hrow => ?_ }
        obtain ⟨⟨hmem, hitem, hwarehouse, hbin⟩, havailable⟩ := hplan.rows row hrow
        have hdistinct : group.1.1 ≠ other.1.1 := fun h =>
          hkeys.1 (h ▸ List.mem_map_of_mem
            (f := fun group : (ℕ × List Contribution) × List InventoryRow =>
              group.1.1) hother)
        refine ⟨⟨hfirst.others row hmem fun contribution hask hsame => ?_, hitem,
          hwarehouse, ?_⟩, havailable⟩
        · exact hdistinct (((hhead.items contribution hask).symm.trans hsame).trans hitem)
        · rwa [inPickableBin_congr hfirst.bins]
      obtain ⟨moreTasks, moreShares, hwalked⟩ := ih hkeys.2 hrest
      exact ⟨_, _, hfirst.trans hwalked⟩

/-! ## Planner and allocators agree -/

/-- The line belongs to one of the orders and still asks for stock. -/
def NeedsStock (orders : List SalesOrder) (line : SalesOrderLine) : Prop :=
  (∃ order ∈ orders, order.soId = line.soId) ∧ line.quantityAllocated < line.quantityOrdered

instance (orders : List SalesOrder) (line : SalesOrderLine) : Decidable (NeedsStock orders line) :=
  inferInstanceAs (Decidable (_ ∧ _))

/-- A loop has allocated every line of the orders in full: each line that asked
for stock ends with what is ordered, what was written for a line is what it
asked for, and no row the loop touched is reserved beyond what it holds. -/
structure AllocatesFully (orders : List SalesOrder) (before after : Db)
    (writtenFor : ℕ → ℤ) : Prop where
  lines : after.salesOrderLines.rows = before.salesOrderLines.rows.map fun line =>
    if NeedsStock orders line then line.setAllocated line.quantityOrdered else line
  written : ∀ line ∈ before.salesOrderLines.rows, writtenFor line.soLineId =
    if NeedsStock orders line then line.quantityOrdered - line.quantityAllocated
    else 0
  rows : ∀ row ∈ after.inventory.rows,
    row.quantityOnHand < row.quantityAllocated → row ∈ before.inventory.rows

/-- What an order asks for a line it holds open. -/
theorem neededBy_openLines (hline : line ∈ db.salesOrderLines.rows) (soId : ℕ) :
    neededBy line.soLineId ((openLines db soId).map askOf) =
      if line.soId = soId ∧ line.quantityAllocated < line.quantityOrdered then
        line.quantityOrdered - line.quantityAllocated
      else 0 := by
  have hwhere : neededBy line.soLineId ((openLines db soId).map askOf) =
      db.salesOrderLines.sum fun row =>
        if row.soLineId = line.soLineId then
          if row.soId = soId ∧ row.quantityAllocated < row.quantityOrdered then
            row.quantityOrdered - row.quantityAllocated
          else 0
        else 0 := by
    simp only [openLines, Table.select, Table.sum, neededBy]
    induction db.salesOrderLines.rows with
    | nil => rfl
    | cons row rest ih =>
        rw [List.filter_cons, List.map_cons, List.sum_cons, ← ih]
        by_cases hopen : row.soId = soId ∧ row.quantityAllocated < row.quantityOrdered
        · rw [if_pos (decide_eq_true hopen), List.map_cons, neededWhere_cons, if_pos hopen]
          by_cases hkey : row.soLineId = line.soLineId <;> simp [askOf, hkey]
        · rw [if_neg (by simpa using hopen), if_neg hopen]
          simp
  rw [hwhere, Table.sum_at_key, Table.find?_eq_some_iff.mpr ⟨hline, rfl⟩, Option.elim_some]

/-- Distinct orders ask once for each of their open lines. -/
theorem neededBy_asks (hline : line ∈ db.salesOrderLines.rows)
    (hnodup : (orders.map SalesOrder.soId).Nodup) :
    neededBy line.soLineId
        (orders.flatMap fun order => (openLines db order.soId).map askOf) =
      if NeedsStock orders line then
        line.quantityOrdered - line.quantityAllocated
      else 0 := by
  induction orders with
  | nil => simp [neededBy, NeedsStock]
  | cons order rest ih =>
      rw [List.map_cons, List.nodup_cons] at hnodup
      have hrest := ih hnodup.2
      have hhead := neededBy_openLines hline order.soId
      rw [neededBy] at hrest hhead
      rw [List.flatMap_cons, neededBy, neededWhere_append, hhead, hrest]
      have hcons : NeedsStock (order :: rest) line ↔
          (line.soId = order.soId ∧ line.quantityAllocated < line.quantityOrdered) ∨
          NeedsStock rest line := by
        simp only [NeedsStock, List.exists_mem_cons_iff, eq_comm]
        tauto
      by_cases hhere : line.soId = order.soId ∧ line.quantityAllocated < line.quantityOrdered
      · have hnone : ¬ NeedsStock rest line := fun hneeds => by
          obtain ⟨other, hother, hsame⟩ := hneeds.1
          exact hnodup.1 (List.mem_map.mpr ⟨other, hother, hsame.trans hhere.1⟩)
        rw [if_pos hhere, if_neg hnone, if_pos (hcons.mpr (Or.inl hhere)), add_zero]
      · rw [if_neg hhere, zero_add]
        by_cases hlater : NeedsStock rest line
        · rw [if_pos hlater, if_pos (hcons.mpr (Or.inr hlater))]
        · rw [if_neg hlater, if_neg fun h => (hcons.mp h).elim hhere hlater]

/-- The planner's contributions ask for the same as the lines. -/
theorem neededWhere_contributions (test : Contribution → Bool)
    (htest : ∀ left right : Contribution, left.itemId = right.itemId →
      left.soLineId = right.soLineId → test left = test right)
    (db : Db) (orders : List SalesOrder) :
    neededWhere test (orders.flatMap (contributionsOf db)) =
      neededWhere test
        (orders.flatMap fun order => (openLines db order.soId).map askOf) := by
  have hlines : ∀ (order : SalesOrder) (lines : List SalesOrderLine),
      neededWhere test (lines.map fun line =>
        { itemId := line.itemId
          soId := order.soId
          soNumber := order.soNumber
          soLineId := line.soLineId
          needed := line.quantityOrdered - line.quantityAllocated }) =
        neededWhere test (lines.map askOf) := by
    intro order lines
    induction lines with
    | nil => rfl
    | cons line rest ih =>
        have hsame := htest
          { itemId := line.itemId
            soId := order.soId
            soNumber := order.soNumber
            soLineId := line.soLineId
            needed := line.quantityOrdered - line.quantityAllocated }
          (askOf line) rfl rfl
        rw [List.map_cons, List.map_cons, neededWhere_cons, neededWhere_cons, ih, hsame]
        rfl
  induction orders with
  | nil => rfl
  | cons order rest ih =>
      rw [List.flatMap_cons, List.flatMap_cons, neededWhere_append,
        neededWhere_append, ih, contributionsOf, hlines]

theorem AllocatesFully.of_grants {writtenFor : ℕ → ℤ} (hnodup : (orders.map SalesOrder.soId).Nodup)
    (hgrants : Grants warehouseId before after granted)
    (hgranted : ∀ soLineId, neededBy soLineId granted = neededBy soLineId
      (orders.flatMap fun order => (openLines before order.soId).map askOf))
    (hwritten : ∀ soLineId, writtenFor soLineId = neededBy soLineId granted) :
    AllocatesFully orders before after writtenFor where
  lines := by
    rw [hgrants.lines]
    refine List.map_congr_left fun line hline => ?_
    rw [hgranted, neededBy_asks hline hnodup]
    by_cases hneeds : NeedsStock orders line
    · simp [hneeds, SalesOrderLine.addAllocated, SalesOrderLine.setAllocated]
    · simp [hneeds, SalesOrderLine.addAllocated]
  written := fun line hline => by
    rw [hwritten, hgranted, neededBy_asks hline hnodup]
  rows := hgrants.rows

theorem withTotes_map_fst (orders : List SalesOrder) :
    (withTotes orders).map Prod.fst = orders := by
  simp [withTotes, List.map_map, Function.comp_def, List.zipIdx_map_fst]

theorem withTotes_asks (db : Db) (orders : List SalesOrder) :
    (withTotes orders).flatMap (asksOf db) =
      orders.flatMap fun order => (openLines db order.soId).map askOf := by
  conv_rhs => rw [← withTotes_map_fst orders, List.flatMap_map]
  rfl

theorem plannedRows (db : Db) (groups : List (ℕ × List Contribution)) (warehouseId : ℕ) :
    groups.zip ((planCoverage db groups warehouseId).2.map Prod.snd) =
      groups.map fun group => (group, pickableRows db group.1 warehouseId) := by
  simp only [planCoverage, List.map_map]
  induction groups with
  | nil => rfl
  | cons group rest ih => simpa using ih

/-- A covered item is ready for the wave loop. -/
theorem planned_of_covers (hcovers : Covers db warehouseId orders)
    {group : ℕ × List Contribution} (hgroup : group ∈ coverageMap db orders) :
    Planned db warehouseId (group, pickableRows db group.1 warehouseId) where
  items := fun contribution hmem => by
    rw [mem_coverageMap hgroup] at hmem
    simpa using (List.mem_filter.mp hmem).2
  asks := fun contribution hmem => (coverageMap_needed_pos hgroup contribution hmem).le
  nodup := pickableRows_nodup db group.1 warehouseId
  rows := pickableRows_stored
  enough := by
    rw [totalAvailable_pickableRows, mem_coverageMap hgroup]
    exact hcovers group.1

/-- If the plan leaves no order uncovered, the loops of `create_pick_batch` and
of `wave_create`, run on the state that was planned, allocate every line of the
orders in full, and each wave task is broken down in full. -/
theorem covered_allocatesFully {db : Db} {warehouseId : ℕ} {orders : List SalesOrder} (batchId : ℕ)
    (hnodup : (orders.map SalesOrder.soId).Nodup)
    (hplan : (planCoverage db (coverageMap db orders) warehouseId).1 = []) :
    let batched := allocateOrders batchId warehouseId db (withTotes orders)
    let waved := allocateWave batchId db ((coverageMap db orders).zip
      ((planCoverage db (coverageMap db orders) warehouseId).2.map Prod.snd))
    let breakdown := Table.appended db.wavePickBreakdown waved.wavePickBreakdown
    AllocatesFully orders db batched (fun soLineId => taskUnits soLineId
      (Table.appended db.pickTasks batched.pickTasks)) ∧
    AllocatesFully orders db waved (fun soLineId => shareUnits soLineId breakdown) ∧
    ∀ task ∈ Table.appended db.pickTasks waved.pickTasks,
      breakdownUnits task.pickTaskId breakdown = task.quantityToPick := by
  have hcovers := (planCoverage_eq_nil_iff db orders warehouseId).mp hplan
  have hasks := fun (test : Contribution → Bool) htest =>
    neededWhere_contributions test htest db orders
  intro batched waved breakdown
  have hbatched : BatchGrants warehouseId db batched
      ((withTotes orders).flatMap (asksOf db)) := by
    refine allocateOrders_grants batchId ?_ fun itemId => ?_
    · have hids : (withTotes orders).map (fun order => order.1.soId) =
          orders.map SalesOrder.soId := by
        rw [← withTotes_map_fst orders, List.map_map, withTotes_map_fst]
        rfl
      rwa [hids]
    · rw [withTotes_asks, neededOf, ← hasks]
      · exact hcovers itemId
      · intro left right hitem _
        simp only [hitem]
  obtain ⟨written, hwritten, hunits⟩ := hbatched.tasks
  have hwaved : ∃ tasks rows, WaveGrants warehouseId db waved
      ((coverageMap db orders).flatMap Prod.snd) tasks rows := by
    have hplanned : ∀ group ∈ (coverageMap db orders).map (fun group =>
        (group, pickableRows db group.1 warehouseId)),
        Planned db warehouseId group := by
      intro group hgroup
      obtain ⟨planned, hmem, rfl⟩ := List.mem_map.mp hgroup
      exact planned_of_covers hcovers hmem
    have hkeys : (((coverageMap db orders).map fun group =>
        (group, pickableRows db group.1 warehouseId)).map fun group =>
          group.1.1).Nodup := by
      rw [List.map_map]
      exact groupByKey_keys_nodup _ _
    have hloop := allocateWave_grants batchId hkeys hplanned
    rw [List.flatMap_map, ← plannedRows] at hloop
    exact hloop
  obtain ⟨tasks, rows, hgrants⟩ := hwaved
  have hrows : breakdown = rows := Table.appended_eq hgrants.breakdown_eq
  refine ⟨?_, ?_, ?_⟩
  · refine AllocatesFully.of_grants hnodup hbatched.toGrants
      (fun soLineId => by rw [withTotes_asks]) fun soLineId => ?_
    rw [Table.appended_eq hwritten]
    exact hunits soLineId
  · refine AllocatesFully.of_grants hnodup hgrants.toGrants
      (fun soLineId => ?_) fun soLineId => ?_
    · have hperm : ((coverageMap db orders).flatMap Prod.snd).Perm
          (orders.flatMap (contributionsOf db)) := groupByKey_flatMap_perm _ _
      rw [neededBy, neededWhere_perm _ hperm]
      refine hasks _ fun left right _ hline => ?_
      simp only [hline]
    · rw [hrows]
      exact hgrants.by_line soLineId
  · intro task htask
    rw [Table.appended_eq hgrants.tasks_eq] at htask
    rw [hrows]
    exact hgrants.by_task task htask

/-- Two orders taken before the stock for them arrives in two bins. -/
def restocked : Db :=
  SmallWarehouse.after
    [SmallWarehouse.order "S1" [SmallWarehouse.line 4],
      SmallWarehouse.order "S2" [SmallWarehouse.line 2],
      SmallWarehouse.receive 1 3 none, SmallWarehouse.receive 2 5 none]

theorem covered_allocatesFully_restocked :
    let batched := allocateOrders 1 1 restocked (withTotes restocked.salesOrders.rows)
    AllocatesFully restocked.salesOrders.rows restocked batched
      fun soLineId => taskUnits soLineId
        (Table.appended restocked.pickTasks batched.pickTasks) :=
  (covered_allocatesFully 1 (by decide) (by decide)).1

/-- An order reserves the five units of lot `L1`; five of lot `L2` come to the
same bin, and a partial fulfillment shorts three units.  The line now wants two
and reserves five, and the shortage came off both lots. -/
def overReserved : Db :=
  SmallWarehouse.after
    [SmallWarehouse.receive 1 5 (some "L1"), SmallWarehouse.order "S1" [SmallWarehouse.line 5],
      SmallWarehouse.receive 1 5 (some "L2"),
      .partialFulfill ⟨1, [⟨1, 3, SmallWarehouse.three_pos, SmallWarehouse.three_inOrder⟩], none,
        by decide⟩]

/-- The plan finds nothing to cover for the order, and neither loop brings its
line down to what is ordered nor its row down to what it holds. -/
theorem overReserved_notAllocatedFully :
    let orders := overReserved.salesOrders.rows.filter fun order => order.soId = 1
    let plan := planCoverage overReserved (coverageMap overReserved orders) 1
    let batched := allocateOrders 1 1 overReserved (withTotes orders)
    let waved := allocateWave 1 overReserved
      ((coverageMap overReserved orders).zip (plan.2.map Prod.snd))
    orders.length = 1 ∧ plan.1 = [] ∧
    (linesOf batched 1).map (fun line =>
      (line.quantityAllocated, line.quantityOrdered)) = [(5, 2)] ∧
    (linesOf waved 1).map (fun line => (line.quantityAllocated, line.quantityOrdered)) = [(5, 2)] ∧
    batched.inventory.rows.map (fun row =>
      (row.quantityOnHand, row.quantityAllocated)) = [(2, 5), (2, 0)] ∧
    waved.inventory.rows.map (fun row =>
      (row.quantityOnHand, row.quantityAllocated)) = [(2, 5), (2, 0)] := by
  decide

end SentryWms.Picking

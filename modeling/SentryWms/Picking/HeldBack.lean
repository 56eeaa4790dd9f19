import SentryWms.Picking.Planner

/-!
# What other orders hold back

Before it plans, a batch releases the standing reservations of its own orders, and of no
others.  The release does not know which rows were reserved for them: it empties the
reserved rows of an item in the order of their keys.  Here the stock a plan finds is read
off the tables before the release, for whichever orders are released.
-/

namespace SentryWms.Picking

open Relational Inventory

/-! ## Read off the tables -/

/-- Units of an item that the rows below a key reserve. -/
def reservedBelow (db : Db) (itemId warehouseId k : ℕ) : ℤ :=
  db.inventory.sum fun row =>
    if row.itemId = itemId ∧ row.warehouseId = warehouseId ∧ row.inventoryId < k
    then max 0 row.quantityAllocated else 0

/-- What a row gives when units of its item are released: what the rows below it do not. -/
def givenBack (db : Db) (warehouseId : ℕ) (units : ℤ) (row : InventoryRow) : ℤ :=
  if row.warehouseId = warehouseId then
    min (max 0 row.quantityAllocated)
      (max 0 (units - reservedBelow db row.itemId warehouseId row.inventoryId))
  else 0

/-- The pickable units of an item once some of it are released. -/
def pickableWith (db : Db) (itemId warehouseId : ℕ) (units : ℤ) : ℤ :=
  db.inventory.sum fun row =>
    if row.itemId = itemId ∧ row.warehouseId = warehouseId ∧ inPickableBin db row
    then max 0 (row.available + givenBack db warehouseId units row) else 0

/-- What the orders reserve of an item and have not picked. -/
def standing (db : Db) (soIds : List ℕ) (itemId : ℕ) : ℤ :=
  db.salesOrderLines.sum fun line =>
    if line.itemId = itemId ∧ line.soId ∈ soIds then max 0 line.outstanding else 0

/-- What the orders ask of an item beyond what they have picked, or beyond what they
reserve where that is less. -/
def asked (db : Db) (orders : List SalesOrder) (itemId : ℕ) : ℤ :=
  (orders.map fun order => db.salesOrderLines.sum fun line =>
    if line.itemId = itemId ∧ line.soId = order.soId then
      max 0 (line.quantityOrdered - min line.quantityAllocated line.quantityPicked)
    else 0).sum

/-- What the reservations of the listed orders keep off the shelf while only those of the
kept orders are released. -/
def heldBack (db : Db) (warehouseId : ℕ) (kept : List SalesOrder) (listed : List ℕ)
    (itemId : ℕ) : ℤ :=
  pickableWith db itemId warehouseId
      (standing db (kept.map SalesOrder.soId ++ listed) itemId) -
    pickableWith db itemId warehouseId (standing db (kept.map SalesOrder.soId) itemId)

/-- What the kept orders leave of the shelf while the reservations of all are released. -/
def leftOver (db : Db) (warehouseId : ℕ) (kept : List SalesOrder) (listed : List ℕ)
    (itemId : ℕ) : ℤ :=
  pickableWith db itemId warehouseId
      (standing db (kept.map SalesOrder.soId ++ listed) itemId) -
    asked db kept itemId

/-- The orders a refusal lists. -/
def listedIds (unpickable : List UncoveredOrder) : List ℕ := unpickable.map UncoveredOrder.soId

/-! ## Rows below a key -/

section Rows

variable {db : Db} {itemId warehouseId : ℕ} {row : InventoryRow} {units : ℤ}

theorem reservedBelow_nonneg (db : Db) (itemId warehouseId k : ℕ) :
    0 ≤ reservedBelow db itemId warehouseId k := by
  apply Table.sum_nonneg
  intro row _
  split <;> omega

theorem reservedBelow_zero (db : Db) (itemId warehouseId : ℕ) :
    reservedBelow db itemId warehouseId 0 = 0 := by
  apply Table.sum_eq_zero
  intro row _
  simp

/-- What the row with a key adds to the rows below it. -/
theorem reservedBelow_succ (db : Db) (itemId warehouseId k : ℕ) :
    reservedBelow db itemId warehouseId (k + 1) = reservedBelow db itemId warehouseId k +
      (db.inventory.find? k).elim 0 fun row =>
        if row.itemId = itemId ∧ row.warehouseId = warehouseId
        then max 0 row.quantityAllocated else 0 := by
  rw [← Table.sum_at_key, reservedBelow, reservedBelow, ← Table.sum_add]
  apply Table.sum_congr
  intro row _
  by_cases hplace : row.itemId = itemId ∧ row.warehouseId = warehouseId
  · obtain ⟨hitem, hwarehouse⟩ := hplace
    rcases Nat.lt_trichotomy row.inventoryId k with hlow | hkey | hhigh
    · simp [hitem, hwarehouse, hlow, hlow.ne, Nat.lt_succ_of_lt hlow]
    · simp [hitem, hwarehouse, hkey]
    · simp [hitem, hwarehouse, hhigh.ne', hhigh.not_gt, Nat.not_lt.mpr hhigh]
  · have hother (k : ℕ) :
        ¬ (row.itemId = itemId ∧ row.warehouseId = warehouseId ∧ row.inventoryId < k) :=
      fun h => hplace ⟨h.1, h.2.1⟩
    rw [if_neg (hother (k + 1)), if_neg (hother k), if_neg hplace, ite_self, add_zero]

theorem givenBack_none (db : Db) (warehouseId : ℕ) (row : InventoryRow) :
    givenBack db warehouseId 0 row = 0 := by
  have hbelow := reservedBelow_nonneg db row.itemId warehouseId row.inventoryId
  unfold givenBack
  split <;> omega

end Rows

/-! ## One release -/

/-- The rows after units of each item were released at a warehouse. -/
structure Freed (warehouseId : ℕ) (units : ℕ → ℤ) (db after : Db) : Prop where
  rows : after.inventory.rows.map InventoryRow.unstamped =
    db.inventory.rows.map fun row => InventoryRow.unstamped { row with
      quantityAllocated :=
        row.quantityAllocated - givenBack db warehouseId (units row.itemId) row }
  bins : after.bins = db.bins

section Freed

variable {db mid after : Db} {warehouseId : ℕ} {units more : ℕ → ℤ}

/-- A total that does not look at the stamps, over the rows after a release. -/
theorem Freed.sum (hfreed : Freed warehouseId units db after) {value : InventoryRow → ℤ}
    (hvalue : ∀ row, value row.unstamped = value row) :
    after.inventory.sum value = db.inventory.sum fun row => value { row with
      quantityAllocated :=
        row.quantityAllocated - givenBack db warehouseId (units row.itemId) row } := by
  have hmap (rows : List InventoryRow) :
      rows.map value = (rows.map InventoryRow.unstamped).map value := by
    rw [List.map_map]
    exact List.map_congr_left fun row _ => (hvalue row).symm
  calc
    after.inventory.sum value
        = ((after.inventory.rows.map InventoryRow.unstamped).map value).sum :=
          congrArg List.sum (hmap _)
    _ = _ := by
          rw [hfreed.rows, List.map_map]
          exact congrArg List.sum (List.map_congr_left fun row _ => hvalue _)

theorem Freed.none (db : Db) (warehouseId : ℕ) : Freed warehouseId (fun _ => 0) db db where
  rows := List.map_congr_left fun row _ => by rw [givenBack_none, sub_zero]
  bins := rfl

/-- A release empties the rows of the item in the order of their keys. -/
theorem Freed.reservedBelow (hfreed : Freed warehouseId units db after) (itemId k : ℕ)
    (hunits : 0 ≤ units itemId) :
    reservedBelow after itemId warehouseId k =
      reservedBelow db itemId warehouseId k -
        min (units itemId) (reservedBelow db itemId warehouseId k) := by
  induction k with
  | zero =>
      rw [reservedBelow_zero, reservedBelow_zero]
      omega
  | succ k ih =>
      have hbelow := reservedBelow_nonneg db itemId warehouseId k
      have hthere : ((after.inventory.find? k).elim 0 fun row =>
          if row.itemId = itemId ∧ row.warehouseId = warehouseId
          then max 0 row.quantityAllocated else 0) =
          (db.inventory.find? k).elim 0 fun row =>
            if row.itemId = itemId ∧ row.warehouseId = warehouseId
            then max 0 (row.quantityAllocated -
              givenBack db warehouseId (units row.itemId) row) else 0 := by
        rw [← Table.sum_at_key, hfreed.sum (fun row => rfl), ← Table.sum_at_key]
      rw [reservedBelow_succ, reservedBelow_succ, ih, hthere]
      cases hrow : db.inventory.find? k with
      | none =>
          simp only [Option.elim_none]
          omega
      | some row =>
          have hkey : row.inventoryId = k := Table.find?_key hrow
          simp only [Option.elim_some]
          by_cases hplace : row.itemId = itemId ∧ row.warehouseId = warehouseId
          · rw [if_pos hplace, if_pos hplace, givenBack, if_pos hplace.2, hplace.1, hkey]
            omega
          · rw [if_neg hplace, if_neg hplace]
            omega

/-- Releases one after the other release their units together. -/
theorem Freed.trans (hfirst : Freed warehouseId units db mid)
    (hsecond : Freed warehouseId more mid after) (hunits : ∀ itemId, 0 ≤ units itemId)
    (hmore : ∀ itemId, 0 ≤ more itemId) :
    Freed warehouseId (fun itemId => units itemId + more itemId) db after where
  rows := by
    have hstep := congrArg (List.map fun row : InventoryRow => { row with
      quantityAllocated :=
        row.quantityAllocated - givenBack mid warehouseId (more row.itemId) row }) hfirst.rows
    rw [List.map_map, List.map_map] at hstep
    refine (hsecond.rows.trans hstep).trans (List.map_congr_left fun row _ => ?_)
    have hbelow := hfirst.reservedBelow row.itemId row.inventoryId (hunits row.itemId)
    have hleft := reservedBelow_nonneg db row.itemId warehouseId row.inventoryId
    have hu := hunits row.itemId
    have hm := hmore row.itemId
    have htogether : row.quantityAllocated - givenBack db warehouseId (units row.itemId) row -
        givenBack mid warehouseId (more row.itemId) { row with
          quantityAllocated :=
            row.quantityAllocated - givenBack db warehouseId (units row.itemId) row } =
        row.quantityAllocated -
          givenBack db warehouseId (units row.itemId + more row.itemId) row := by
      simp only [givenBack, hbelow]
      split <;> omega
    exact congrArg (fun allocated => InventoryRow.unstamped { row with
      quantityAllocated := allocated }) htogether
  bins := hsecond.bins.trans hfirst.bins

/-- The stock a plan finds after a release. -/
theorem Freed.pickableIn (hfreed : Freed warehouseId units db after) (itemId : ℕ) :
    pickableIn after itemId warehouseId =
      pickableWith db itemId warehouseId (units itemId) := by
  have hbin (row : InventoryRow) : inPickableBin after row = inPickableBin db row := by
    rw [inPickableBin, inPickableBin, binOf?, binOf?, hfreed.bins]
  rw [Picking.pickableIn, pickableWith, hfreed.sum fun row => rfl]
  apply Table.sum_congr
  intro row _
  by_cases hplace : row.itemId = itemId ∧ row.warehouseId = warehouseId ∧ inPickableBin db row
  · rw [if_pos hplace, if_pos ⟨hplace.1, hplace.2.1, (hbin _).trans hplace.2.2⟩, hplace.1]
    simp only [InventoryRow.available]
    congr 1
    omega
  · rw [if_neg hplace, if_neg fun h => hplace ⟨h.1, h.2.1, (hbin _).symm.trans h.2.2⟩]

/-! ### A walk -/

/-- What the rows below a key have to give to a walk. -/
theorem allocatedRows_below (db : Db) (itemId warehouseId k : ℕ) :
    ((allocatedRows db itemId warehouseId).map fun row =>
        if row.inventoryId < k then row.quantityAllocated else 0).sum =
      reservedBelow db itemId warehouseId k := by
  rw [allocatedRows, ((orderBy_perm _ _).map _).sum_eq, Table.sum_select, reservedBelow]
  apply Table.sum_congr
  intro row _
  simp only [decide_eq_true_eq]
  by_cases hplace : row.itemId = itemId ∧ row.warehouseId = warehouseId
  · obtain ⟨hitem, hwarehouse⟩ := hplace
    simp only [hitem, hwarehouse, true_and]
    split <;> split <;> omega
  · rw [if_neg fun h => hplace ⟨h.1, h.2.1⟩, if_neg fun h => hplace ⟨h.1, h.2.1⟩]

theorem allocatedRows_sorted (db : Db) (itemId warehouseId : ℕ) :
    (allocatedRows db itemId warehouseId).Pairwise fun left right =>
      left.inventoryId ≤ right.inventoryId :=
  List.pairwise_insertionSort _ _

/-- The walk of one line is a release of its units. -/
theorem freed_walk (stamp : Option ℕ) (db : Db) (itemId warehouseId : ℕ) {need : ℤ}
    (hneed : 0 ≤ need) :
    Freed warehouseId (fun other => if other = itemId then need else 0) db
      (applyTakes stamp (-1) db (draws InventoryRow.quantityAllocated need
        (allocatedRows db itemId warehouseId))) where
  rows := by
    rw [applyTakes_unstamped]
    refine List.map_congr_left fun row hrow => ?_
    have htaken : Relational.takenAt InventoryRow.inventoryId row.inventoryId
        (draws InventoryRow.quantityAllocated need (allocatedRows db itemId warehouseId)) =
        givenBack db warehouseId (if row.itemId = itemId then need else 0) row := by
      by_cases hplace : row.itemId = itemId ∧ row.warehouseId = warehouseId
      · obtain ⟨hitem, hwarehouse⟩ := hplace
        have hbelow (k : ℕ) := takenBelow_draws InventoryRow.quantityAllocated hneed
          (allocatedRows_sorted db itemId warehouseId)
          (fun row hrow => (mem_allocatedRows.mp hrow).2.2.2.le) k
        have hsucc := takenBelow_succ InventoryRow.inventoryId row.inventoryId
          (draws InventoryRow.quantityAllocated need (allocatedRows db itemId warehouseId))
        have hnext := reservedBelow_succ db itemId warehouseId row.inventoryId
        have hnonneg := reservedBelow_nonneg db itemId warehouseId row.inventoryId
        rw [Table.find?_eq_some_iff.mpr ⟨hrow, rfl⟩, Option.elim_some,
          if_pos ⟨hitem, hwarehouse⟩] at hnext
        rw [hbelow, hbelow, allocatedRows_below, allocatedRows_below] at hsucc
        rw [givenBack, if_pos hwarehouse, if_pos hitem, hitem]
        omega
      · have hnone : givenBack db warehouseId (if row.itemId = itemId then need else 0) row =
            0 := by
          by_cases hitem : row.itemId = itemId
          · exact if_neg fun hwarehouse => hplace ⟨hitem, hwarehouse⟩
          · rw [if_neg hitem, givenBack_none]
        rw [hnone]
        apply takenAt_eq_zero
        intro take htake hkey
        obtain ⟨hstored, hitem, hwarehouse, -⟩ := mem_allocatedRows.mp (draws_mem _ htake)
        have hsame : take.1 = row :=
          List.inj_on_of_nodup_map db.inventory.keys_nodup hstored hrow hkey
        exact hplace ⟨hsame ▸ hitem, hsame ▸ hwarehouse⟩
    rw [htaken, neg_one_mul, ← sub_eq_add_neg]
  bins := applyTakes_bins ..

end Freed

/-! ## The release of a batch -/

section Release

variable {db : Db} {warehouseId : ℕ}

/-- A line whose order is released reserves no more than it has picked. -/
def floored (soIds : List ℕ) (line : SalesOrderLine) : SalesOrderLine :=
  if line.soId ∈ soIds then
    { line with quantityAllocated := min line.quantityAllocated line.quantityPicked }
  else line

/-- Rows and lines after the standing reservations of some orders were released. -/
structure Normalized (warehouseId : ℕ) (soIds : List ℕ) (db after : Db) : Prop where
  stock : Freed warehouseId (standing db soIds) db after
  lines : after.salesOrderLines.rows = db.salesOrderLines.rows.map (floored soIds)

theorem standing_nonneg (db : Db) (soIds : List ℕ) (itemId : ℕ) :
    0 ≤ standing db soIds itemId := by
  apply Table.sum_nonneg
  intro line _
  split <;> omega

/-- The lines of one loop: each releases its units, and forgets its reservation. -/
theorem run_normalizeLine (now warehouseId : ℕ) (db : Db) {lines : List SalesOrderLine}
    (houtstanding : ∀ line ∈ lines, 0 ≤ line.outstanding) :
    Freed warehouseId
        (fun itemId => (lines.map fun line =>
          if itemId = line.itemId then line.outstanding else 0).sum)
        db (run (normalizeLine now warehouseId) db lines) ∧
      (run (normalizeLine now warehouseId) db lines).salesOrderLines.rows =
        db.salesOrderLines.rows.map fun line =>
          if line.soLineId ∈ lines.map SalesOrderLine.soLineId then line.allocatedToPicked
          else line := by
  induction lines generalizing db with
  | nil => exact ⟨Freed.none db warehouseId, by simp [run]⟩
  | cons line rest ih =>
      have hline := houtstanding line List.mem_cons_self
      have hothers : ∀ other ∈ rest, 0 ≤ other.outstanding := fun other hother =>
        houtstanding other (List.mem_cons_of_mem _ hother)
      obtain ⟨hstock, hlines⟩ := ih (normalizeLine now warehouseId db line) hothers
      have hwalk : Freed warehouseId (fun itemId =>
          if itemId = line.itemId then line.outstanding else 0) db
          (normalizeLine now warehouseId db line) :=
        ⟨(freed_walk (some now) db line.itemId warehouseId hline).rows,
          (freed_walk (some now) db line.itemId warehouseId hline).bins⟩
      constructor
      · refine hwalk.trans hstock (fun itemId => ?_) fun itemId => ?_
        · split <;> omega
        · refine List.sum_nonneg fun units hunits => ?_
          obtain ⟨other, hother, rfl⟩ := List.mem_map.mp hunits
          have := hothers other hother
          split <;> omega
      · refine hlines.trans ?_
        have hone : (normalizeLine now warehouseId db line).salesOrderLines.rows =
            db.salesOrderLines.rows.map fun other =>
              if other.soLineId = line.soLineId then other.allocatedToPicked else other := by
          simp [normalizeLine, updateLine, Table.updateKey, Table.update]
        rw [hone, List.map_map]
        refine List.map_congr_left fun other _ => ?_
        by_cases hkey : other.soLineId = line.soLineId <;>
          by_cases hrest : other.soLineId ∈ rest.map SalesOrderLine.soLineId <;>
            simp_all [SalesOrderLine.allocatedToPicked]

/-- One order: the lines that reserve more than they picked. -/
theorem normalized_so (now warehouseId : ℕ) (db : Db) (soId : ℕ) :
    Normalized warehouseId [soId] db (normalizeSoReservations now warehouseId db soId) := by
  have houtstanding : ∀ line ∈ reservedLines db soId, 0 ≤ line.outstanding := by
    intro line hline
    have hmore := (of_decide_eq_true (List.mem_filter.mp hline).2).2
    rw [SalesOrderLine.outstanding]
    omega
  obtain ⟨hstock, hlines⟩ := run_normalizeLine now warehouseId db houtstanding
  have hunits : standing db [soId] = fun itemId => ((reservedLines db soId).map fun line =>
      if itemId = line.itemId then line.outstanding else 0).sum := by
    funext itemId
    rw [reservedLines, Table.sum_select, standing]
    apply Table.sum_congr
    intro line _
    simp only [List.mem_singleton, decide_eq_true_eq, SalesOrderLine.outstanding]
    by_cases hitem : line.itemId = itemId <;> by_cases horder : line.soId = soId <;>
      by_cases hmore : line.quantityPicked < line.quantityAllocated <;>
        simp [hitem, horder, hmore, eq_comm] <;> omega
  refine ⟨hunits ▸ hstock, hlines.trans (List.map_congr_left fun line hline => ?_)⟩
  have hmem : line.soLineId ∈ (reservedLines db soId).map SalesOrderLine.soLineId ↔
      line.soId = soId ∧ line.quantityPicked < line.quantityAllocated :=
    (Table.key_mem_select db.salesOrderLines _ hline).trans decide_eq_true_iff
  by_cases horder : line.soId = soId
  · by_cases hmore : line.quantityPicked < line.quantityAllocated
    · rw [if_pos (hmem.mpr ⟨horder, hmore⟩), floored, if_pos (List.mem_singleton.mpr horder),
        SalesOrderLine.allocatedToPicked, min_eq_right hmore.le]
    · rw [if_neg fun h => hmore (hmem.mp h).2, floored, if_pos (List.mem_singleton.mpr horder),
        min_eq_left (not_lt.mp hmore)]
  · rw [if_neg fun h => horder (hmem.mp h).1, floored,
      if_neg fun h => horder (List.mem_singleton.mp h)]

/-- The orders of a batch, one after the other. -/
theorem normalized_orders (now warehouseId : ℕ) (db : Db) (orders : List SalesOrder) :
    Normalized warehouseId (orders.map SalesOrder.soId) db
      (normalizeOrders now warehouseId db orders) := by
  induction orders generalizing db with
  | nil =>
      have hnone : standing db [] = fun _ => 0 := by
        funext itemId
        simp [standing]
      have hkept : floored [] = id := by
        funext line
        simp [floored]
      refine ⟨?_, ?_⟩
      · rw [List.map_nil, hnone]
        exact Freed.none db warehouseId
      · rw [List.map_nil, hkept, List.map_id]
        rfl
  | cons order rest ih =>
      have hone := normalized_so now warehouseId db order.soId
      have hrest := ih (normalizeSoReservations now warehouseId db order.soId)
      have hunits : standing db ((order :: rest).map SalesOrder.soId) = fun itemId =>
          standing db [order.soId] itemId +
            standing (normalizeSoReservations now warehouseId db order.soId)
              (rest.map SalesOrder.soId) itemId := by
        funext itemId
        simp only [standing]
        rw [Table.sum, Table.sum, Table.sum, hone.lines, List.map_map, ← List.sum_map_add]
        refine congrArg List.sum (List.map_congr_left fun line _ => ?_)
        by_cases horder : line.soId = order.soId <;>
          by_cases hitem : line.itemId = itemId <;>
            simp [floored, horder, hitem, SalesOrderLine.outstanding]
      refine ⟨?_, ?_⟩
      · rw [hunits]
        exact hone.stock.trans hrest.stock (standing_nonneg _ _) (standing_nonneg _ _)
      · refine hrest.lines.trans ?_
        rw [hone.lines, List.map_map]
        refine List.map_congr_left fun line _ => ?_
        by_cases horder : line.soId = order.soId <;>
          by_cases hlater : line.soId ∈ rest.map SalesOrder.soId <;>
            simp_all [floored]

end Release

/-! ## The plan -/

section Plan

variable {db : Db} {orders : List SalesOrder} {warehouseId : ℕ}

theorem combinedNeeded_filter (test : Contribution → Bool) (contributions : List Contribution) :
    combinedNeeded (contributions.filter test) =
      (contributions.map fun contribution =>
        if test contribution then contribution.needed else 0).sum := by
  induction contributions with
  | nil => rfl
  | cons contribution rest ih =>
      rw [combinedNeeded] at ih
      by_cases htest : test contribution <;> simp [combinedNeeded, htest, ih]

/-- What orders ask, line by line. -/
theorem demand_eq (db : Db) (orders : List SalesOrder) (itemId : ℕ) :
    demand db orders itemId =
      (orders.map fun order => db.salesOrderLines.sum fun line =>
        if line.itemId = itemId ∧ line.soId = order.soId then
          max 0 (line.quantityOrdered - line.quantityAllocated) else 0).sum := by
  rw [demand, combinedNeeded_filter]
  induction orders with
  | nil => rfl
  | cons order rest ih =>
      rw [List.flatMap_cons, List.map_append, List.sum_append, ih, List.map_cons, List.sum_cons,
        contributionsOf, List.map_map, openLines]
      congr 1
      refine (Table.sum_select db.salesOrderLines _ _).trans (Table.sum_congr _ fun line _ => ?_)
      simp only [Function.comp, decide_eq_true_eq]
      by_cases hitem : line.itemId = itemId <;> by_cases horder : line.soId = order.soId <;>
        by_cases hopen : line.quantityAllocated < line.quantityOrdered <;>
          simp [hitem, horder, hopen] <;> omega

theorem Normalized.demand_eq {after : Db} {soIds : List ℕ}
    (hnormalized : Normalized warehouseId soIds db after)
    (horders : ∀ order ∈ orders, order.soId ∈ soIds) (itemId : ℕ) :
    demand after orders itemId = asked db orders itemId := by
  rw [Picking.demand_eq, asked]
  refine congrArg List.sum (List.map_congr_left fun order horder => ?_)
  rw [Table.sum, Table.sum, hnormalized.lines, List.map_map]
  refine congrArg List.sum (List.map_congr_left fun line _ => ?_)
  have hsoId := horders order horder
  by_cases hhere : line.soId = order.soId
  · simp [floored, hhere, hsoId]
  · have hsame : (floored soIds line).soId = line.soId := by
      unfold floored
      split <;> rfl
    simp [hsame, hhere]

/-- Orders among the released ones are covered exactly if what they ask fits the stock
that is pickable with the released units. -/
theorem covers_normalized (now : ℕ) {kept : List SalesOrder}
    (hkept : ∀ order ∈ kept, order.soId ∈ orders.map SalesOrder.soId) :
    Covers (normalizeOrders now warehouseId db orders) warehouseId kept ↔
      ∀ itemId, asked db kept itemId ≤
        pickableWith db itemId warehouseId (standing db (orders.map SalesOrder.soId) itemId) := by
  have hnormalized := normalized_orders now warehouseId db orders
  refine forall_congr' fun itemId => ?_
  rw [hnormalized.demand_eq hkept, hnormalized.stock.pickableIn]

/-- What the walk over the contributions does not report, it has found units for. -/
theorem coverItem_kept (total : ℤ) {cumulative : ℤ} {contributions : List Contribution}
    (hneeded : ∀ contribution ∈ contributions, 0 < contribution.needed)
    (kept : Contribution → Bool)
    (hkept : ∀ reported ∈ coverItem total cumulative contributions, ¬ kept reported.1) :
    cumulative + combinedNeeded (contributions.filter kept) ≤ max total cumulative := by
  induction contributions generalizing cumulative with
  | nil => simp [combinedNeeded]
  | cons contribution rest ih =>
      have hpos := hneeded contribution List.mem_cons_self
      have hrest : ∀ other ∈ rest, 0 < other.needed := fun other hother =>
        hneeded other (List.mem_cons_of_mem _ hother)
      by_cases hfits : cumulative + contribution.needed ≤ total
      · rw [coverItem, if_pos hfits] at hkept
        have hlater := ih hrest hkept
        by_cases hhere : kept contribution
        · have hsum : combinedNeeded ((contribution :: rest).filter kept) =
              contribution.needed + combinedNeeded (rest.filter kept) := by
            simp [combinedNeeded, hhere]
          omega
        · rw [List.filter_cons_of_neg hhere]
          omega
      · rw [coverItem, if_neg hfits] at hkept
        have hlater := ih hrest fun reported hreported =>
          hkept reported (List.mem_cons_of_mem _ hreported)
        rw [List.filter_cons_of_neg (hkept _ List.mem_cons_self)]
        exact hlater

theorem mem_of_coverItem {total cumulative : ℤ} {contributions : List Contribution}
    {reported : Contribution × ℤ}
    (hreported : reported ∈ coverItem total cumulative contributions) :
    reported.1 ∈ contributions := by
  induction contributions generalizing cumulative with
  | nil => cases hreported
  | cons contribution rest ih =>
      rw [coverItem] at hreported
      split at hreported
      · exact List.mem_cons_of_mem _ (ih hreported)
      · cases hreported with
        | head => exact List.mem_cons_self
        | tail _ hlater => exact List.mem_cons_of_mem _ (ih hlater)

/-- An order is listed for a contribution that the walk over its item reports. -/
theorem mem_listedIds {soId : ℕ} :
    soId ∈ listedIds (planCoverage db (coverageMap db orders) warehouseId).1 ↔
      ∃ group ∈ coverageMap db orders, ∃ reported ∈
        coverItem (totalAvailable (pickableRows db group.1 warehouseId)) 0
          (byOrderAndLine group.2), reported.1.soId = soId := by
  rw [listedIds, planCoverage, unpickableBySo, List.map_map]
  refine (mem_keys_groupByKey _ _ _).trans ?_
  constructor
  · rintro ⟨entry, hentry, rfl⟩
    obtain ⟨group, hgroup, hfound⟩ := List.mem_flatMap.mp hentry
    obtain ⟨reported, hreported, rfl⟩ := List.mem_map.mp hfound
    exact ⟨group, hgroup, reported, hreported, rfl⟩
  · rintro ⟨group, hgroup, reported, hreported, rfl⟩
    exact ⟨_, List.mem_flatMap.mpr ⟨group, hgroup, List.mem_map_of_mem hreported⟩, rfl⟩

/-- What an item's walk is over comes from the planned orders. -/
theorem exists_order_of_group {group : ℕ × List Contribution}
    (hgroup : group ∈ coverageMap db orders) {contribution : Contribution}
    (hmem : contribution ∈ group.2) : ∃ order ∈ orders, order.soId = contribution.soId := by
  rw [mem_coverageMap hgroup] at hmem
  obtain ⟨order, horder, hasked⟩ := List.mem_flatMap.mp (List.mem_of_mem_filter hmem)
  obtain ⟨line, -, rfl⟩ := List.mem_map.mp hasked
  exact ⟨order, horder, rfl⟩

/-- The orders listed are among those planned. -/
theorem listedIds_subset {soId : ℕ}
    (hlisted : soId ∈ listedIds (planCoverage db (coverageMap db orders) warehouseId).1) :
    soId ∈ orders.map SalesOrder.soId := by
  obtain ⟨group, hgroup, reported, hreported, rfl⟩ := mem_listedIds.mp hlisted
  obtain ⟨order, horder, hsoId⟩ :=
    exists_order_of_group hgroup (mem_orderBy.mp (mem_of_coverItem hreported))
  exact List.mem_map.mpr ⟨order, horder, hsoId⟩

theorem contributionsOf_filter (soIds : List ℕ) (orders : List SalesOrder) :
    (orders.filter fun order => order.soId ∉ soIds).flatMap (contributionsOf db) =
      (orders.flatMap (contributionsOf db)).filter fun contribution =>
        contribution.soId ∉ soIds := by
  induction orders with
  | nil => rfl
  | cons order rest ih =>
      rw [List.flatMap_cons, List.filter_append, ← ih]
      by_cases hlisted : order.soId ∈ soIds
      · have hnone : (contributionsOf db order).filter
            (fun contribution => contribution.soId ∉ soIds) = [] := by
          rw [List.filter_eq_nil_iff]
          intro contribution hmem
          obtain ⟨line, -, rfl⟩ := List.mem_map.mp hmem
          simpa using hlisted
        rw [List.filter_cons_of_neg (by simpa using hlisted), hnone, List.nil_append]
      · rw [List.filter_cons_of_pos (by simpa using hlisted), List.flatMap_cons]
        congr 1
        refine (List.filter_eq_self.mpr fun contribution hmem => ?_).symm
        obtain ⟨line, -, rfl⟩ := List.mem_map.mp hmem
        simpa using hlisted

/-- The plan finds units for every order that it does not list. -/
theorem planCoverage_kept (db : Db) (orders : List SalesOrder) (warehouseId : ℕ) :
    Covers db warehouseId (orders.filter fun order =>
      order.soId ∉ listedIds (planCoverage db (coverageMap db orders) warehouseId).1) := by
  intro itemId
  have hnonneg := pickableIn_nonneg db itemId warehouseId
  rw [demand, contributionsOf_filter, List.filter_comm]
  by_cases hasked : itemId ∈ (coverageMap db orders).map Prod.fst
  · obtain ⟨group, hgroup, rfl⟩ := List.mem_map.mp hasked
    have hpos : ∀ contribution ∈ byOrderAndLine group.2, 0 < contribution.needed :=
      fun contribution hmem =>
        coverageMap_needed_pos hgroup contribution (mem_orderBy.mp hmem)
    have hkept := coverItem_kept (totalAvailable (pickableRows db group.1 warehouseId)) hpos
      (fun contribution => contribution.soId ∉
        listedIds (planCoverage db (coverageMap db orders) warehouseId).1)
      (fun reported hreported => by
        simpa using mem_listedIds.mpr ⟨group, hgroup, reported, hreported, rfl⟩)
    have hsame := (((byOrderAndLine_perm group.2).filter fun contribution =>
      contribution.soId ∉ listedIds (planCoverage db (coverageMap db orders) warehouseId).1).map
        Contribution.needed).sum_eq
    rw [combinedNeeded, hsame, totalAvailable_pickableRows, mem_coverageMap hgroup] at hkept
    rw [combinedNeeded]
    omega
  · have hnone : (orders.flatMap (contributionsOf db)).filter
        (fun contribution => contribution.itemId = itemId) = [] := by
      rw [List.filter_eq_nil_iff]
      intro contribution hmem hitem
      exact hasked ((mem_keys_groupByKey _ _ _).mpr ⟨contribution, hmem, by simpa using hitem⟩)
    rw [hnone]
    simpa [combinedNeeded] using hnonneg

/-! ## The retry -/

theorem standing_congr {soIds others : List ℕ} (hsame : ∀ soId, soId ∈ soIds ↔ soId ∈ others) :
    standing db soIds = standing db others := by
  funext itemId
  simp only [standing, hsame]

/-- Listed orders that reserve nothing of an item hold nothing of it back. -/
theorem heldBack_eq_zero {kept : List SalesOrder} {listed : List ℕ} {itemId : ℕ}
    (hpicked : ∀ line ∈ db.salesOrderLines.rows, line.itemId = itemId → line.soId ∈ listed →
      line.quantityAllocated ≤ line.quantityPicked) :
    heldBack db warehouseId kept listed itemId = 0 := by
  have hsame : standing db (kept.map SalesOrder.soId ++ listed) itemId =
      standing db (kept.map SalesOrder.soId) itemId := by
    apply Table.sum_congr
    intro line hline
    simp only [List.mem_append]
    by_cases hlisted : line.itemId = itemId ∧ line.soId ∈ listed
    · have hnone := hpicked line hline hlisted.1 hlisted.2
      have hzero : max 0 line.outstanding = 0 :=
        max_eq_left (sub_nonpos.mpr hnone)
      rw [hzero, ite_self, ite_self]
    · have hiff : (line.itemId = itemId ∧
          (line.soId ∈ kept.map SalesOrder.soId ∨ line.soId ∈ listed)) ↔
          (line.itemId = itemId ∧ line.soId ∈ kept.map SalesOrder.soId) := by
        tauto
      simp only [hiff]
  rw [heldBack, hsame, sub_self]

/-- A plan that lists some orders has left units for the others; without the listed orders
those are covered exactly if what these hold back was to spare. -/
theorem covers_kept_iff (now : ℕ) {kept : List SalesOrder} {listed : List ℕ}
    (hlisted : listed = listedIds (planCoverage (normalizeOrders now warehouseId db orders)
      (coverageMap (normalizeOrders now warehouseId db orders) orders) warehouseId).1)
    (hkept : kept = orders.filter fun order => order.soId ∉ listed) :
    (∀ itemId, 0 ≤ leftOver db warehouseId kept listed itemId) ∧
      (Covers (normalizeOrders now warehouseId db kept) warehouseId kept ↔
        ∀ itemId, heldBack db warehouseId kept listed itemId ≤
          leftOver db warehouseId kept listed itemId) := by
  have hall : standing db (kept.map SalesOrder.soId ++ listed) =
      standing db (orders.map SalesOrder.soId) := by
    apply standing_congr
    intro soId
    have hplanned : soId ∈ listed → soId ∈ orders.map SalesOrder.soId := by
      rw [hlisted]
      exact listedIds_subset
    subst hkept
    constructor
    · intro hmem
      cases List.mem_append.mp hmem with
      | inl hrest => exact (List.filter_sublist.map SalesOrder.soId).subset hrest
      | inr hhere => exact hplanned hhere
    · intro hmem
      obtain ⟨order, horder, rfl⟩ := List.mem_map.mp hmem
      by_cases hhere : order.soId ∈ listed
      · exact List.mem_append_right _ hhere
      · exact List.mem_append_left _ (List.mem_map_of_mem
          (List.mem_filter.mpr ⟨horder, by simpa using hhere⟩))
  constructor
  · have hplan := planCoverage_kept (normalizeOrders now warehouseId db orders) orders warehouseId
    rw [← hlisted, ← hkept] at hplan
    have hfits := (covers_normalized now (by
      rw [hkept]
      exact fun order horder => List.mem_map_of_mem (List.mem_of_mem_filter horder))).mp hplan
    intro itemId
    rw [leftOver, hall]
    exact sub_nonneg.mpr (hfits itemId)
  · refine (covers_normalized now fun order horder => List.mem_map_of_mem horder).trans
      (forall_congr' fun itemId => ?_)
    rw [heldBack, leftOver]
    omega

end Plan

end SentryWms.Picking

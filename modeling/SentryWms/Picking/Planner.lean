import SentryWms.System

/-!
# The planner and the allocators

`_plan_coverage` reasons about per-item totals, the allocation loops walk rows.
The bridge is the pickable stock of an item: the plan reports no uncovered order
exactly when it covers the demand of every item, and each step of the loops takes
from it what it grants to a line.
-/

namespace SentryWms.Picking

open Relational Inventory

/-! ## Pickable stock -/

/-- Available units of an item in the pickable bins of a warehouse. -/
def pickableIn (db : Db) (itemId warehouseId : ℕ) : ℤ :=
  db.inventory.sum fun row =>
    if row.itemId = itemId ∧ row.warehouseId = warehouseId ∧ inPickableBin db row
    then max 0 row.available else 0

theorem pickableIn_nonneg (db : Db) (itemId warehouseId : ℕ) :
    0 ≤ pickableIn db itemId warehouseId :=
  Table.sum_nonneg _ fun row _ => by split <;> simp

variable {db : Db} {orders : List SalesOrder} {group : ℕ × List Contribution}

theorem mem_pickableRows {itemId warehouseId : ℕ} {row : InventoryRow} :
    row ∈ pickableRows db itemId warehouseId ↔
      row ∈ db.inventory.rows ∧ row.itemId = itemId ∧
        row.warehouseId = warehouseId ∧ 0 < row.available ∧
          inPickableBin db row := by
  simp [pickableRows, mem_orderBy, Table.select, List.mem_filter]

/-- The rows of the plan hold the pickable stock of the item. -/
theorem totalAvailable_pickableRows (db : Db) (itemId warehouseId : ℕ) :
    totalAvailable (pickableRows db itemId warehouseId) =
      pickableIn db itemId warehouseId := by
  rw [totalAvailable, pickableRows, ((orderBy_perm _ _).map _).sum_eq]
  simp only [pickableIn, Table.sum, Table.select]
  induction db.inventory.rows with
  | nil => rfl
  | cons row rows ih =>
      rw [List.map_cons, List.sum_cons, ← ih, List.filter_cons]
      by_cases hplace : row.itemId = itemId ∧ row.warehouseId = warehouseId ∧ inPickableBin db row
      · obtain ⟨hitem, hwarehouse, hbin⟩ := hplace
        by_cases havailable : 0 < row.available
        · simp [hitem, hwarehouse, hbin, havailable, havailable.le]
        · have hzero : max 0 row.available = 0 := by omega
          simp [hitem, hwarehouse, hbin, havailable, hzero]
      · rw [if_neg hplace, zero_add, if_neg]
        simp only [decide_eq_true_eq]
        exact fun h => hplace ⟨h.1, h.2.1, h.2.2.2⟩

theorem pickableRows_nodup (db : Db) (itemId warehouseId : ℕ) :
    ((pickableRows db itemId warehouseId).map InventoryRow.inventoryId).Nodup := by
  rw [pickableRows, ((orderBy_perm _ _).map _).nodup_iff]
  exact (List.filter_sublist.map _).nodup db.inventory.keys_nodup

/-! ## The plan -/

theorem mem_openLines {soId : ℕ} {line : SalesOrderLine} :
    line ∈ openLines db soId ↔
      line ∈ db.salesOrderLines.rows ∧ line.soId = soId ∧
        line.quantityAllocated < line.quantityOrdered := by
  simp [openLines, Table.select, List.mem_filter]

theorem contributionsOf_needed_pos {order : SalesOrder} {contribution : Contribution}
    (hmem : contribution ∈ contributionsOf db order) : 0 < contribution.needed := by
  obtain ⟨line, hline, rfl⟩ := List.mem_map.mp hmem
  have := (mem_openLines.mp hline).2.2
  simp only
  omega

theorem coverItem_eq_nil_iff (total cumulative : ℤ) {contributions : List Contribution}
    (hneeded : ∀ contribution ∈ contributions, 0 < contribution.needed) :
    coverItem total cumulative contributions = [] ↔
      contributions = [] ∨ cumulative + combinedNeeded contributions ≤ total := by
  induction contributions generalizing cumulative with
  | nil => simp [coverItem]
  | cons contribution rest ih =>
      have hrest : ∀ other ∈ rest, 0 < other.needed := fun other hother =>
        hneeded other (List.mem_cons_of_mem _ hother)
      have hnonneg : 0 ≤ combinedNeeded rest :=
        List.sum_nonneg (by simpa using fun other hother => (hrest other hother).le)
      have hsum : combinedNeeded (contribution :: rest) =
          contribution.needed + combinedNeeded rest := by
        simp [combinedNeeded]
      by_cases hfits : cumulative + contribution.needed ≤ total
      · rw [coverItem, if_pos hfits, ih _ hrest, hsum]
        constructor
        · rintro (rfl | h)
          · exact Or.inr (by simpa [combinedNeeded] using hfits)
          · exact Or.inr (by omega)
        · rintro (h | h)
          · exact absurd h (List.cons_ne_nil _ _)
          · exact Or.inr (by omega)
      · rw [coverItem, if_neg hfits, hsum]
        simp only [List.cons_ne_nil, false_or, false_iff]
        omega

theorem byOrderAndLine_perm (contributions : List Contribution) :
    (byOrderAndLine contributions).Perm contributions :=
  orderBy_perm _ _

theorem combinedNeeded_byOrderAndLine (contributions : List Contribution) :
    combinedNeeded (byOrderAndLine contributions) =
      combinedNeeded contributions :=
  ((byOrderAndLine_perm contributions).map _).sum_eq

theorem groupByKey_eq_nil_iff {Key Value : Type} [DecidableEq Key]
    (key : Value → Key) (values : List Value) :
    groupByKey key values = [] ↔ values = [] := by
  constructor
  · intro h
    cases values with
    | nil => rfl
    | cons value rest =>
        have := (mem_keys_groupByKey key (value :: rest) (key value)).mpr
          ⟨value, List.mem_cons_self, rfl⟩
        simp [h] at this
  · rintro rfl
    rfl

/-- What the orders ask of an item. -/
def demand (db : Db) (orders : List SalesOrder) (itemId : ℕ) : ℤ :=
  combinedNeeded ((orders.flatMap (contributionsOf db)).filter fun contribution =>
    contribution.itemId = itemId)

/-- The pickable stock covers what the orders ask, item by item. -/
def Covers (db : Db) (warehouseId : ℕ) (orders : List SalesOrder) : Prop :=
  ∀ itemId, demand db orders itemId ≤ pickableIn db itemId warehouseId

theorem mem_coverageMap (hgroup : group ∈ coverageMap db orders) :
    group.2 = (orders.flatMap (contributionsOf db)).filter (fun contribution =>
      contribution.itemId = group.1) :=
  groupByKey_group Contribution.itemId hgroup

theorem coverageMap_needed_pos (hgroup : group ∈ coverageMap db orders) :
    ∀ contribution ∈ group.2, 0 < contribution.needed := by
  intro contribution hmem
  rw [mem_coverageMap hgroup] at hmem
  obtain ⟨order, -, horder⟩ := List.mem_flatMap.mp (List.mem_of_mem_filter hmem)
  exact contributionsOf_needed_pos horder

/-- The plan leaves no order uncovered exactly when the pickable stock covers the
demand of every item. -/
theorem planCoverage_eq_nil_iff (db : Db) (orders : List SalesOrder) (warehouseId : ℕ) :
    (planCoverage db (coverageMap db orders) warehouseId).1 = [] ↔
      Covers db warehouseId orders := by
  have hgroup : ∀ group ∈ coverageMap db orders,
      (uncoveredOf db warehouseId group = [] ↔
        demand db orders group.1 ≤ pickableIn db group.1 warehouseId) := by
    intro group hmem
    have hpos : ∀ contribution ∈ byOrderAndLine group.2,
        0 < contribution.needed := fun contribution hcontribution =>
      coverageMap_needed_pos hmem contribution (mem_orderBy.mp hcontribution)
    have hnonneg := pickableIn_nonneg db group.1 warehouseId
    rw [uncoveredOf, List.map_eq_nil_iff, coverItem_eq_nil_iff _ _ hpos,
      combinedNeeded_byOrderAndLine, zero_add, totalAvailable_pickableRows,
      demand, ← mem_coverageMap hmem]
    constructor
    · rintro (hnil | hle)
      · have hempty : group.2 = [] :=
          (hnil ▸ byOrderAndLine_perm group.2).symm.eq_nil
        simpa [hempty, combinedNeeded] using hnonneg
      · exact hle
    · exact Or.inr
  rw [planCoverage, unpickableBySo, List.map_eq_nil_iff, groupByKey_eq_nil_iff,
    uncovered, List.flatMap_eq_nil_iff]
  constructor
  · intro hnone itemId
    by_cases hasked : itemId ∈ (coverageMap db orders).map Prod.fst
    · obtain ⟨group, hmem, rfl⟩ := List.mem_map.mp hasked
      exact (hgroup group hmem).mp (hnone group hmem)
    · have hempty : (orders.flatMap (contributionsOf db)).filter
          (fun contribution => contribution.itemId = itemId) = [] := by
        rw [List.filter_eq_nil_iff]
        intro contribution hmem hitem
        exact hasked ((mem_keys_groupByKey _ _ _).mpr
          ⟨contribution, hmem, by simpa using hitem⟩)
      simpa [demand, hempty, combinedNeeded] using
        pickableIn_nonneg db itemId warehouseId
  · intro hcovers group hmem
    exact (hgroup group hmem).mpr (hcovers group.1)

end SentryWms.Picking

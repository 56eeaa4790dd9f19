import SentryWms.System

/-!
# Undoing an admin pick

An admin pick takes each entry from every row of the bin that covers it, and books
the units on the line; releasing its tasks gives the units back to the row of the bin
without a lot and takes them off the line.  The line is as before where it reserved
exactly what it had picked, and the bin where its row without a lot was the one row
to give.
-/

namespace SentryWms.SalesOrders

open Relational Inventory
open InventoryRow (unstamped)

/-! ## A row against the entries of its bin -/

/-- What a row gives to entries that each take all they ask or nothing. -/
def given : ℤ → List ℤ → ℤ
  | _, [] => 0
  | available, qty :: rest =>
      if qty ≤ available then qty + given (available - qty) rest
      else given available rest

variable {asked : List ℤ} {entries : List (AdminPickEntry × SalesOrderLine)} {k : ℕ}
  {entry : AdminPickEntry × SalesOrderLine} {db : Db} {tasks : List PickTask}

theorem given_bounds (hpos : ∀ qty ∈ asked, 0 < qty) (available : ℤ) :
    0 ≤ given available asked ∧ given available asked ≤ asked.sum := by
  induction asked generalizing available with
  | nil => exact ⟨le_rfl, le_rfl⟩
  | cons qty rest ih =>
      have hqty := hpos qty List.mem_cons_self
      have hrest := ih fun later hlater => hpos later (List.mem_cons_of_mem _ hlater)
      rw [given, List.sum_cons]
      split
      · have := hrest (available - qty)
        omega
      · have := hrest available
        omega

/-- A row gives nothing when it covers none of the entries. -/
theorem given_eq_zero_iff (hpos : ∀ qty ∈ asked, 0 < qty) (available : ℤ) :
    given available asked = 0 ↔ ∀ qty ∈ asked, available < qty := by
  induction asked generalizing available with
  | nil => simp [given]
  | cons qty rest ih =>
      have hqty := hpos qty List.mem_cons_self
      have hlater : ∀ later ∈ rest, 0 < later := fun later hmem =>
        hpos later (List.mem_cons_of_mem _ hmem)
      rw [given, List.forall_mem_cons]
      by_cases hcovers : qty ≤ available
      · have hnonneg := (given_bounds hlater (available - qty)).1
        rw [if_pos hcovers]
        omega
      · rw [if_neg hcovers, ih hlater]
        exact (and_iff_right (not_le.mp hcovers)).symm

theorem sum_asked_pos (hpos : ∀ qty ∈ asked, 0 < qty) (hasked : asked ≠ []) : 0 < asked.sum := by
  cases asked with
  | nil => exact absurd rfl hasked
  | cons qty rest =>
      have hrest : 0 ≤ rest.sum := List.sum_nonneg fun later hlater =>
        (hpos later (List.mem_cons_of_mem _ hlater)).le
      have hqty := hpos qty List.mem_cons_self
      rw [List.sum_cons]
      omega

/-- A row gives all that is asked when it covers the total. -/
theorem given_eq_sum_iff (hpos : ∀ qty ∈ asked, 0 < qty) (available : ℤ) :
    given available asked = asked.sum ↔ asked = [] ∨ asked.sum ≤ available := by
  induction asked generalizing available with
  | nil => simp [given]
  | cons qty rest ih =>
      have hqty := hpos qty List.mem_cons_self
      have hlater : ∀ later ∈ rest, 0 < later := fun later hmem =>
        hpos later (List.mem_cons_of_mem _ hmem)
      have hsum : 0 ≤ rest.sum := List.sum_nonneg fun later hmem => (hlater later hmem).le
      have hne : ¬ qty :: rest = [] := List.cons_ne_nil _ _
      simp only [given, List.sum_cons, hne, false_or]
      by_cases hcovers : qty ≤ available
      · rw [if_pos hcovers, add_right_inj, ih hlater]
        constructor
        · rintro (rfl | hle)
          · simpa using hcovers
          · omega
        · intro hle
          right
          omega
      · have hle := (given_bounds hlater available).2
        rw [if_neg hcovers]
        omega

/-! ## The entries of a request -/

/-- The quantities asked of an item's bin, in the order of the entries. -/
def askedAt (entries : List (AdminPickEntry × SalesOrderLine)) (itemId binId : ℕ) : List ℤ :=
  (entries.filter fun entry => entry.2.itemId = itemId ∧ entry.1.binId = binId).map
    fun entry => entry.1.quantity

/-- The quantities asked of a line. -/
def askedFor (entries : List (AdminPickEntry × SalesOrderLine)) (soLineId : ℕ) : List ℤ :=
  (entries.filter fun entry => entry.1.soLineId = soLineId).map
    fun entry => entry.1.quantity

theorem askedAt_pos {itemId binId : ℕ} : ∀ qty ∈ askedAt entries itemId binId, 0 < qty := by
  intro qty hqty
  obtain ⟨entry, -, rfl⟩ := List.mem_map.mp hqty
  exact entry.1.quantity_pos

theorem askedFor_pos {soLineId : ℕ} : ∀ qty ∈ askedFor entries soLineId, 0 < qty := by
  intro qty hqty
  obtain ⟨entry, -, rfl⟩ := List.mem_map.mp hqty
  exact entry.1.quantity_pos

theorem askedAt_cons (entry : AdminPickEntry × SalesOrderLine)
    (rest : List (AdminPickEntry × SalesOrderLine)) (itemId binId : ℕ) :
    askedAt (entry :: rest) itemId binId =
      if entry.2.itemId = itemId ∧ entry.1.binId = binId then
        entry.1.quantity :: askedAt rest itemId binId
      else askedAt rest itemId binId := by
  unfold askedAt
  by_cases hhere : entry.2.itemId = itemId ∧ entry.1.binId = binId
  · rw [List.filter_cons_of_pos (by simpa using hhere), if_pos hhere, List.map_cons]
  · rw [List.filter_cons_of_neg (by simpa using hhere), if_neg hhere]

theorem askedFor_cons (entry : AdminPickEntry × SalesOrderLine)
    (rest : List (AdminPickEntry × SalesOrderLine)) (soLineId : ℕ) :
    askedFor (entry :: rest) soLineId =
      if entry.1.soLineId = soLineId then
        entry.1.quantity :: askedFor rest soLineId
      else askedFor rest soLineId := by
  unfold askedFor
  by_cases hhere : entry.1.soLineId = soLineId
  · rw [List.filter_cons_of_pos (by simpa using hhere), if_pos hhere, List.map_cons]
  · rw [List.filter_cons_of_neg (by simpa using hhere), if_neg hhere]

/-! ## A line against its entries -/

/-- The line once the entries are picked. -/
def pickedLine (asked : List ℤ) (line : SalesOrderLine) : SalesOrderLine :=
  asked.foldl (fun line qty => line.adminPick qty) line

/-- The line once the tasks of the entries are released. -/
def releasedLineOf (asked : List ℤ) (line : SalesOrderLine) : SalesOrderLine :=
  asked.foldl (fun line qty => line.undoTask qty qty) line

theorem pickedLine_counters (hpos : ∀ qty ∈ asked, 0 < qty) (hasked : asked ≠ [])
    (line : SalesOrderLine) :
    (pickedLine asked line).quantityPicked = line.quantityPicked + asked.sum ∧
      (pickedLine asked line).quantityAllocated =
        max line.quantityAllocated (line.quantityPicked + asked.sum) := by
  induction asked generalizing line with
  | nil => exact absurd rfl hasked
  | cons qty rest ih =>
      have hqty := hpos qty List.mem_cons_self
      have hlater : ∀ later ∈ rest, 0 < later := fun later hmem =>
        hpos later (List.mem_cons_of_mem _ hmem)
      rw [pickedLine, List.foldl_cons, ← pickedLine, List.sum_cons]
      by_cases hrest : rest = []
      · subst hrest
        simp [pickedLine, SalesOrderLine.adminPick]
      · obtain ⟨hpicked, hallocated⟩ := ih hlater hrest (line.adminPick qty)
        have hsum := sum_asked_pos hlater hrest
        rw [hpicked, hallocated]
        simp only [SalesOrderLine.adminPick]
        omega

theorem releasedLineOf_counters (hpos : ∀ qty ∈ asked, 0 < qty) (hasked : asked ≠ [])
    (line : SalesOrderLine) :
    (releasedLineOf asked line).quantityPicked = max 0 (line.quantityPicked - asked.sum) ∧
      (releasedLineOf asked line).quantityAllocated =
        max 0 (line.quantityAllocated - asked.sum) := by
  induction asked generalizing line with
  | nil => exact absurd rfl hasked
  | cons qty rest ih =>
      have hlater : ∀ later ∈ rest, 0 < later := fun later hmem =>
        hpos later (List.mem_cons_of_mem _ hmem)
      rw [releasedLineOf, List.foldl_cons, ← releasedLineOf, List.sum_cons]
      by_cases hrest : rest = []
      · subst hrest
        simp [releasedLineOf, SalesOrderLine.undoTask]
      · obtain ⟨hpicked, hallocated⟩ := ih hlater hrest (line.undoTask qty qty)
        have hsum := sum_asked_pos hlater hrest
        rw [hpicked, hallocated]
        simp only [SalesOrderLine.undoTask]
        omega

/-- Picking and releasing leaves the counters of a line alone exactly when it
reserved what it had picked. -/
theorem released_picked_iff (hpos : ∀ qty ∈ asked, 0 < qty) (hasked : asked ≠ [])
    (line : SalesOrderLine) :
    ((releasedLineOf asked (pickedLine asked line)).quantityPicked = line.quantityPicked ∧
        (releasedLineOf asked (pickedLine asked line)).quantityAllocated = line.quantityAllocated) ↔
      0 ≤ line.quantityPicked ∧ line.quantityAllocated = line.quantityPicked := by
  obtain ⟨hpicked, hallocated⟩ := pickedLine_counters hpos hasked line
  obtain ⟨hbackPicked, hbackAllocated⟩ :=
    releasedLineOf_counters hpos hasked (pickedLine asked line)
  have hsum := sum_asked_pos hpos hasked
  rw [hbackPicked, hbackAllocated, hpicked, hallocated]
  omega

/-! ## What the picks leave -/

/-- The row with more units, without the stamp. -/
def raised (units : ℤ) (row : InventoryRow) : InventoryRow :=
  { row with
    quantityOnHand := row.quantityOnHand + units
    updatedAt := 0 }

theorem raised_zero : raised 0 = unstamped := by
  funext row
  rw [raised, unstamped, add_zero]

theorem raised_unstamped (units : ℤ) : raised units ∘ unstamped = raised units := rfl

theorem raised_raised (first second : ℤ) :
    raised second ∘ raised first = raised (first + second) := by
  funext row
  simp only [Function.comp_apply, raised, add_assoc]

/-- The row once the entries are picked. -/
def pickedRow (entries : List (AdminPickEntry × SalesOrderLine)) (row : InventoryRow) :
    InventoryRow :=
  raised (-given row.available (askedAt entries row.itemId row.binId)) row

/-- The task that books an entry. -/
structure Books (entry : AdminPickEntry × SalesOrderLine) (task : PickTask) : Prop where
  target : task.target = .salesOrder entry.2.soId (some entry.1.soLineId)
  itemId : task.itemId = entry.2.itemId
  binId : task.binId = entry.1.binId
  quantityToPick : task.quantityToPick = entry.1.quantity
  quantityPicked : task.quantityPicked = entry.1.quantity
  status : task.status = .taskPicked

/-- The task `record_admin_pick` inserts for an entry. -/
def bookedTask (batchId seq pickTaskId : ℕ) (entry : AdminPickEntry × SalesOrderLine) :
    PickTask where
  pickTaskId := pickTaskId
  batchId := batchId
  target := .salesOrder entry.2.soId (some entry.1.soLineId)
  itemId := entry.2.itemId
  binId := entry.1.binId
  quantityToPick := entry.1.quantity
  quantityPicked := entry.1.quantity
  pickSequence := seq
  status := .taskPicked

section Picks

variable {ctx : RequestContext} {batchId seq : ℕ}
  {entries : List (AdminPickEntry × SalesOrderLine)} {db after : Db}

/-- The first entry finds a row that covers it, and the others follow. -/
theorem applyAdminPicks_cons {entry : AdminPickEntry × SalesOrderLine}
    (hpicked : applyAdminPicks ctx batchId seq (entry :: entries) db = .ok after) :
    coveringRows db entry.2.itemId entry.1.binId entry.1.quantity ≠ [] ∧
      applyAdminPicks ctx batchId (seq + 1) entries (writeAdminPick batchId seq entry.2 entry.1
        (takeAvailable ctx.now entry.2.itemId entry.1.binId entry.1.quantity db)) = .ok after := by
  simp only [applyAdminPicks, applyAdminPick, bind_eq_ok, require_eq_ok, pure_eq_ok] at hpicked
  obtain ⟨_, ⟨-, hcovered, rfl⟩, hrest⟩ := hpicked
  exact ⟨hcovered, hrest⟩

theorem applyAdminPicks_rows (hpicked : applyAdminPicks ctx batchId seq entries db = .ok after) :
    after.inventory.rows.map unstamped = db.inventory.rows.map (pickedRow entries) := by
  induction entries generalizing seq db with
  | nil =>
      cases hpicked
      apply List.map_congr_left
      intro row _
      rw [pickedRow, askedAt, List.filter_nil, List.map_nil, given, neg_zero, raised_zero]
  | cons entry rest ih =>
      obtain ⟨-, hrest⟩ := applyAdminPicks_cons hpicked
      rw [ih hrest]
      simp only [writeAdminPick, updateLine_inventory, takeAvailable, Table.update, List.map_map]
      apply List.map_congr_left
      intro row _
      rw [Function.comp_apply]
      simp only [decide_eq_true_eq, pickedRow, askedAt_cons]
      by_cases hhere : entry.2.itemId = row.itemId ∧ entry.1.binId = row.binId
      · rw [if_pos hhere, given]
        by_cases hcovers : entry.1.quantity ≤ row.available
        · rw [if_pos ⟨hhere.1.symm, hhere.2.symm, hcovers⟩, if_pos hcovers]
          have havailable : ({ row with
              quantityOnHand := row.quantityOnHand - entry.1.quantity
              updatedAt := ctx.now } : InventoryRow).available =
                row.available - entry.1.quantity := by
            simp only [InventoryRow.available]
            omega
          rw [havailable]
          simp only [raised, InventoryRow.mk.injEq, true_and, and_true]
          omega
        · rw [if_neg fun hboth => hcovers hboth.2.2, if_neg hcovers]
      · rw [if_neg fun hboth => hhere ⟨hboth.1.symm, hboth.2.1.symm⟩, if_neg hhere]

/-- Each entry is covered by a row of its bin, as the request found it. -/
theorem applyAdminPicks_covered (hpicked : applyAdminPicks ctx batchId seq entries db = .ok after) :
    ∀ entry ∈ entries, ∃ row ∈ db.inventory.rows, row.itemId = entry.2.itemId ∧
      row.binId = entry.1.binId ∧ entry.1.quantity ≤ row.available := by
  induction entries generalizing seq db with
  | nil => exact fun entry hentry => absurd hentry List.not_mem_nil
  | cons first rest ih =>
      obtain ⟨hcovered, hrest⟩ := applyAdminPicks_cons hpicked
      intro entry hentry
      rcases List.mem_cons.mp hentry with rfl | hlater
      · obtain ⟨row, hrow⟩ := List.exists_mem_of_ne_nil _ hcovered
        obtain ⟨hstored, htest⟩ := List.mem_filter.mp hrow
        exact ⟨row, hstored, of_decide_eq_true htest⟩
      · obtain ⟨row, hrow, hitem, hbin, hcovers⟩ := ih hrest entry hlater
        simp only [writeAdminPick, updateLine_inventory, takeAvailable, Table.update,
          List.mem_map] at hrow
        obtain ⟨old, hold, rfl⟩ := hrow
        have hpos := first.1.quantity_pos
        by_cases htaken : old.itemId = first.2.itemId ∧ old.binId = first.1.binId ∧
            first.1.quantity ≤ old.available
        · rw [if_pos (decide_eq_true htaken)] at hitem hbin hcovers
          simp only [InventoryRow.available] at hcovers
          refine ⟨old, hold, hitem, hbin, ?_⟩
          simp only [InventoryRow.available]
          omega
        · rw [if_neg (by simpa using htaken)] at hitem hbin hcovers
          exact ⟨old, hold, hitem, hbin, hcovers⟩

theorem applyAdminPicks_lines
    (hpicked : applyAdminPicks ctx batchId seq entries db = .ok after) (k : ℕ) :
    after.salesOrderLines.find? k =
      (db.salesOrderLines.find? k).map (pickedLine (askedFor entries k)) := by
  induction entries generalizing seq db with
  | nil =>
      cases hpicked
      cases after.salesOrderLines.find? k <;> rfl
  | cons entry rest ih =>
      obtain ⟨-, hrest⟩ := applyAdminPicks_cons hpicked
      rw [ih hrest, askedFor_cons]
      simp only [writeAdminPick, updateLine, takeAvailable, Table.find?_updateKey]
      by_cases hhere : entry.1.soLineId = k
      · rw [if_pos hhere.symm, if_pos hhere, Option.map_map]
        rfl
      · rw [if_neg fun hsame => hhere hsame.symm, if_neg hhere]

theorem applyAdminPicks_tasks (hpicked : applyAdminPicks ctx batchId seq entries db = .ok after) :
    ∃ tasks, after.pickTasks.rows = db.pickTasks.rows ++ tasks ∧
      List.Forall₂ Books entries tasks := by
  induction entries generalizing seq db with
  | nil =>
      cases hpicked
      exact ⟨[], (List.append_nil _).symm, List.Forall₂.nil⟩
  | cons entry rest ih =>
      obtain ⟨-, hrest⟩ := applyAdminPicks_cons hpicked
      obtain ⟨tasks, hrows, hbooks⟩ := ih hrest
      have hbooked : Books entry (bookedTask batchId seq db.pickTasks.nextKey entry) :=
        ⟨rfl, rfl, rfl, rfl, rfl, rfl⟩
      refine ⟨_, ?_, List.Forall₂.cons hbooked hbooks⟩
      rw [hrows]
      simp only [writeAdminPick, Table.insert, updateLine_pickTasks,
        List.append_assoc, List.singleton_append]
      rfl

end Picks

/-! ## What the releases leave -/

section Arrivals

variable (now itemId binId warehouseId : ℕ) (quantity : ℤ) (lotNumber : Option String) (db : Db)

theorem nextKey_le_addInventory :
    db.inventory.nextKey ≤ (addInventory now itemId binId warehouseId quantity lotNumber
      db).inventory.nextKey := by
  unfold addInventory
  split
  · exact le_rfl
  · exact Nat.le_succ _

/-- Arriving units raise the row they find; no other stored row changes. -/
theorem find?_addInventory (hstored : k < db.inventory.nextKey) :
    ((addInventory now itemId binId warehouseId quantity lotNumber
        db).inventory.find? k).map unstamped =
      (db.inventory.find? k).map (raised
        (if (existingRow? db itemId binId lotNumber).map
          InventoryRow.inventoryId = some k then quantity else 0)) := by
  unfold addInventory
  cases hrow : existingRow? db itemId binId lotNumber with
  | none =>
      dsimp only
      rw [Table.find?_insert, if_neg (Nat.ne_of_lt hstored), Option.map_none,
        if_neg (by simp), raised_zero]
  | some row =>
      dsimp only
      rw [Table.find?_updateKey]
      by_cases hhere : k = row.inventoryId
      · rw [if_pos hhere, Option.map_map]
        simp only [Option.map_some, hhere, if_true]
        rfl
      · have hother : ¬ (some row).map InventoryRow.inventoryId = some k :=
          fun hsame => hhere (Option.some.inj hsame).symm
        rw [if_neg hhere, if_neg hother, raised_zero]

/-- The row a later arrival finds among those stored now is the same. -/
theorem existingRow?_key_addInventory (hstored : k < db.inventory.nextKey)
    (otherItem otherBin : ℕ) (otherLot : Option String) :
    (existingRow? (addInventory now itemId binId warehouseId quantity lotNumber db)
        otherItem otherBin otherLot).map InventoryRow.inventoryId = some k ↔
      (existingRow? db otherItem otherBin otherLot).map
        InventoryRow.inventoryId = some k := by
  unfold addInventory
  cases hrow : existingRow? db itemId binId lotNumber with
  | none =>
      simp only [existingRow?, Table.insert, List.find?_append]
      cases hfound : db.inventory.rows.find? fun row => row.itemId = otherItem ∧
          row.binId = otherBin ∧ row.lotNumber = otherLot with
      | some found => simp
      | none =>
          simp only [Option.none_or, Option.map_none, reduceCtorEq, iff_false]
          intro hnew
          obtain ⟨row, hlast, hkey⟩ := Option.map_eq_some_iff.mp hnew
          have hmem := List.mem_of_find?_eq_some hlast
          rw [List.mem_singleton] at hmem
          subst hmem
          exact Nat.ne_of_lt hstored hkey.symm
  | some row =>
      simp only [existingRow?, Table.updateKey, Table.update, List.find?_map, Option.map_map]
      have htest : ((fun row : InventoryRow => decide (row.itemId = otherItem ∧
          row.binId = otherBin ∧ row.lotNumber = otherLot)) ∘ fun other =>
            if decide (other.inventoryId = row.inventoryId) = true then
              { other with
                quantityOnHand := other.quantityOnHand + quantity
                updatedAt := now }
            else other) =
          fun other => decide (other.itemId = otherItem ∧
            other.binId = otherBin ∧ other.lotNumber = otherLot) := by
        funext other
        rw [Function.comp_apply]
        split <;> rfl
      rw [htest]
      have hkeys : (InventoryRow.inventoryId ∘ fun other =>
            if decide (other.inventoryId = row.inventoryId) = true then
              { other with
                quantityOnHand := other.quantityOnHand + quantity
                updatedAt := now }
            else other) = InventoryRow.inventoryId := by
        funext other
        rw [Function.comp_apply]
        split <;> rfl
      rw [hkeys]

end Arrivals

/-- What the released tasks put on the row with the key. -/
def credited (db : Db) (entries : List (AdminPickEntry × SalesOrderLine)) (k : ℕ) : ℤ :=
  (entries.map fun entry =>
    if (existingRow? db entry.2.itemId entry.1.binId none).map
      InventoryRow.inventoryId = some k then entry.1.quantity else 0).sum

section Releases

variable {ctx : RequestContext} {warehouseId : ℕ}
  {entries : List (AdminPickEntry × SalesOrderLine)} {tasks : List PickTask}

/-- The release of a booked entry brings its units to the bin's row without a lot. -/
theorem releasePickedTask_inventory (ctx : RequestContext) (warehouseId : ℕ)
    {task : PickTask} (hbooks : Books entry task) (db : Db) :
    (releasePickedTask ctx warehouseId db task).inventory =
      (addInventory ctx.now entry.2.itemId entry.1.binId warehouseId
        entry.1.quantity none db).inventory := by
  have hpos : 0 < task.quantityPicked := by
    rw [hbooks.quantityPicked]
    exact entry.1.quantity_pos
  change (updateLine _ _ _ _).inventory = _
  rw [updateLine_inventory, Picking.restorePicked, if_pos hpos, hbooks.itemId,
    hbooks.binId, hbooks.quantityPicked]

theorem existingRow?_of_inventory {before after : Db}
    (hsame : after.inventory = before.inventory) (itemId binId : ℕ)
    (lotNumber : Option String) :
    existingRow? after itemId binId lotNumber =
      existingRow? before itemId binId lotNumber := by
  rw [existingRow?, existingRow?, hsame]

/-- What a release leaves of the later credits: rows stored now are found as
before. -/
theorem credited_release {task : PickTask} (hbooks : Books entry task) (db : Db)
    (hstored : k < db.inventory.nextKey)
    (rest : List (AdminPickEntry × SalesOrderLine)) :
    credited (releasePickedTask ctx warehouseId db task) rest k =
      credited db rest k := by
  unfold credited
  congr 1
  apply List.map_congr_left
  intro later _
  rw [existingRow?_of_inventory (releasePickedTask_inventory ctx warehouseId hbooks db)]
  simp only [existingRow?_key_addInventory _ _ _ _ _ _ _ hstored]

theorem releases_rows (hbooks : List.Forall₂ Books entries tasks) (db : Db)
    (hstored : k < db.inventory.nextKey) :
    ((run (releasePickedTask ctx warehouseId) db tasks).inventory.find? k).map unstamped =
      (db.inventory.find? k).map (raised (credited db entries k)) := by
  induction hbooks generalizing db with
  | nil =>
      rw [credited, List.map_nil, List.sum_nil, raised_zero]
      rfl
  | @cons entry task rest later hbooked _ ih =>
      have hinventory := releasePickedTask_inventory ctx warehouseId hbooked db
      have hnext : k < (releasePickedTask ctx warehouseId db task).inventory.nextKey := by
        rw [hinventory]
        exact hstored.trans_le (nextKey_le_addInventory ..)
      have hstep := find?_addInventory ctx.now entry.2.itemId entry.1.binId warehouseId
        entry.1.quantity none db hstored
      rw [← hinventory] at hstep
      rw [run, List.foldl_cons, ← run, ih _ hnext, credited_release hbooked db hstored,
        ← raised_unstamped, ← Option.map_map, hstep, Option.map_map, raised_raised,
        credited, credited, List.map_cons, List.sum_cons]

/-- Where every bin has its row without a lot, no release adds a row. -/
theorem releases_keys (hbooks : List.Forall₂ Books entries tasks) (db : Db)
    (hfound : ∀ entry ∈ entries, existingRow? db entry.2.itemId entry.1.binId none ≠ none) :
    (run (releasePickedTask ctx warehouseId) db tasks).inventory.rows.map InventoryRow.inventoryId =
      db.inventory.rows.map InventoryRow.inventoryId := by
  induction hbooks generalizing db with
  | nil => rfl
  | @cons entry task rest later hbooked _ ih =>
      have hinventory := releasePickedTask_inventory ctx warehouseId hbooked db
      have hkeys : (releasePickedTask ctx warehouseId db task).inventory.rows.map
          InventoryRow.inventoryId =
          db.inventory.rows.map InventoryRow.inventoryId := by
        rw [hinventory, addInventory]
        cases hrow : existingRow? db entry.2.itemId entry.1.binId none with
        | none => exact absurd hrow (hfound entry List.mem_cons_self)
        | some row =>
            simp only [Table.updateKey, Table.update, List.map_map]
            apply List.map_congr_left
            intro other _
            rw [Function.comp_apply]
            split <;> rfl
      rw [run, List.foldl_cons, ← run, ih, hkeys]
      intro other hother
      obtain ⟨row, hrow⟩ := Option.ne_none_iff_exists'.mp
        (hfound other (List.mem_cons_of_mem _ hother))
      have hlt := db.inventory.keys_lt row (existingRow?_spec db hrow).1
      have hkey := (existingRow?_key_addInventory ctx.now entry.2.itemId entry.1.binId
        warehouseId entry.1.quantity none db hlt other.2.itemId other.1.binId none).mpr
          (by rw [hrow, Option.map_some])
      rw [existingRow?_of_inventory hinventory]
      intro hnone
      rw [hnone] at hkey
      cases hkey

theorem releases_lines (hbooks : List.Forall₂ Books entries tasks) (db : Db) (k : ℕ) :
    (run (releasePickedTask ctx warehouseId) db tasks).salesOrderLines.find? k =
      (db.salesOrderLines.find? k).map (releasedLineOf (askedFor entries k)) := by
  induction hbooks generalizing db with
  | nil =>
      change db.salesOrderLines.find? k = _
      cases db.salesOrderLines.find? k <;> rfl
  | @cons entry task rest later hbooked _ ih =>
      have hline : task.soLineId? = some entry.1.soLineId := by
        rw [PickTask.soLineId?, hbooked.target]
      have hstep : (releasePickedTask ctx warehouseId db task).salesOrderLines =
          db.salesOrderLines.updateKey entry.1.soLineId
            (SalesOrderLine.undoTask entry.1.quantity entry.1.quantity) := by
        have hlines : (Picking.restorePicked ctx warehouseId task db).salesOrderLines =
            db.salesOrderLines := by
          unfold Picking.restorePicked addInventory
          split
          · split <;> rfl
          · rfl
        simp only [releasePickedTask, setTaskStatus, updateLine, hline, hlines,
          hbooked.quantityPicked, hbooked.quantityToPick]
      rw [run, List.foldl_cons, ← run, ih, hstep, Table.find?_updateKey, askedFor_cons]
      by_cases hhere : entry.1.soLineId = k
      · rw [if_pos hhere.symm, if_pos hhere, Option.map_map]
        rfl
      · rw [if_neg fun hsame => hhere hsame.symm, if_neg hhere]

end Releases

/-! ## The whole way there and back -/

/-- The lines of the order and the rows and bins of the warehouse are as before. -/
structure PickUndone (before after : Db) (soId : ℕ) : Prop where
  lines : ∀ line ∈ linesOf before soId,
    ∃ restored, after.salesOrderLines.find? line.soLineId = some restored ∧
      restored.quantityPicked = line.quantityPicked ∧
      restored.quantityAllocated = line.quantityAllocated
  rows : ∀ row ∈ before.inventory.rows,
    ∃ restored, after.inventory.find? row.inventoryId = some restored ∧
      restored.quantityOnHand = row.quantityOnHand ∧
      restored.quantityAllocated = row.quantityAllocated
  bins : ∀ itemId binId, onHandAt after itemId binId = onHandAt before itemId binId ∧
    allocatedAt after itemId binId = allocatedAt before itemId binId

/-- Each picked line reserved what it had picked and no more, and in each picked bin
the row without a lot covers all entries there and no other row covers one. -/
structure Undoable (db : Db) (entries : List (AdminPickEntry × SalesOrderLine)) :
    Prop where
  lines : ∀ entry ∈ entries, 0 ≤ entry.2.quantityPicked ∧
    entry.2.quantityAllocated = entry.2.quantityPicked
  returned : ∀ row ∈ db.inventory.rows,
    existingRow? db row.itemId row.binId none = some row →
      askedAt entries row.itemId row.binId = [] ∨
        (askedAt entries row.itemId row.binId).sum ≤ row.available
  others : ∀ row ∈ db.inventory.rows,
    existingRow? db row.itemId row.binId none ≠ some row →
      ∀ qty ∈ askedAt entries row.itemId row.binId, row.available < qty

theorem mem_withLines {soId : ℕ} {picks : List AdminPickEntry}
    (hentry : entry ∈ withLines db soId picks) :
    db.salesOrderLines.find? entry.1.soLineId = some entry.2 ∧ entry.2.soId = soId := by
  obtain ⟨pick, -, hline⟩ := List.mem_filterMap.mp hentry
  obtain ⟨line, hfound, rfl⟩ := Option.map_eq_some_iff.mp hline
  rw [pickLine, Option.filter_eq_some_iff] at hfound
  exact ⟨hfound.1, of_decide_eq_true hfound.2⟩

/-- The tasks of a request are the ones its release names. -/
theorem namedTasks_created {between : Db} {soId : ℕ}
    (hrows : between.pickTasks.rows = db.pickTasks.rows ++ tasks)
    (horder : ∀ task ∈ tasks, task.soId? = some soId) :
    namedTasks between soId (tasks.map PickTask.pickTaskId) = tasks := by
  have hnodup := between.pickTasks.keys_nodup
  rw [hrows, List.map_append] at hnodup
  have hfresh := List.disjoint_of_nodup_append hnodup
  have hold : (db.pickTasks.rows.filter fun task =>
      task.pickTaskId ∈ tasks.map PickTask.pickTaskId ∧ task.soId? = some soId) = [] := by
    apply List.filter_eq_nil_iff.mpr
    intro task htask hnamed
    exact hfresh (List.mem_map_of_mem htask) (of_decide_eq_true hnamed).1
  have hnew : (tasks.filter fun task =>
      task.pickTaskId ∈ tasks.map PickTask.pickTaskId ∧ task.soId? = some soId) =
        tasks := by
    apply List.filter_eq_self.mpr
    intro task htask
    exact decide_eq_true ⟨List.mem_map_of_mem htask, horder task htask⟩
  rw [namedTasks, Table.select, hrows, List.filter_append, hold, hnew, List.nil_append]

/-- Picking moves no row to another bin or lot. -/
theorem existingRow?_key_picked {picked : Db}
    (hrows : picked.inventory.rows.map unstamped =
      db.inventory.rows.map (pickedRow entries)) (itemId binId : ℕ)
    (lotNumber : Option String) :
    (existingRow? picked itemId binId lotNumber).map InventoryRow.inventoryId =
      (existingRow? db itemId binId lotNumber).map InventoryRow.inventoryId := by
  have hfound := congrArg (fun rows => (rows.find? fun row : InventoryRow =>
    row.itemId = itemId ∧ row.binId = binId ∧ row.lotNumber = lotNumber).map
      InventoryRow.inventoryId) hrows
  simp only [List.find?_map, Option.map_map] at hfound
  exact hfound

theorem sum_askedAt (entries : List (AdminPickEntry × SalesOrderLine)) (itemId binId : ℕ) :
    (entries.map fun entry =>
      if entry.2.itemId = itemId ∧ entry.1.binId = binId then entry.1.quantity
      else 0).sum = (askedAt entries itemId binId).sum := by
  induction entries with
  | nil => rfl
  | cons entry rest ih =>
      rw [List.map_cons, List.sum_cons, ih, askedAt_cons]
      split
      · rw [List.sum_cons]
      · rw [zero_add]

/-- A row is credited with all that was asked of its bin, or with nothing. -/
theorem credited_eq {row : InventoryRow} (hrow : row ∈ db.inventory.rows)
    (entries : List (AdminPickEntry × SalesOrderLine)) :
    credited db entries row.inventoryId =
      if existingRow? db row.itemId row.binId none = some row then
        (askedAt entries row.itemId row.binId).sum
      else 0 := by
  have hfinds : ∀ itemId binId, (existingRow? db itemId binId none).map
      InventoryRow.inventoryId = some row.inventoryId ↔
        (itemId = row.itemId ∧ binId = row.binId) ∧
          existingRow? db row.itemId row.binId none = some row := by
    intro itemId binId
    constructor
    · intro hfound
      obtain ⟨found, hexisting, hkey⟩ := Option.map_eq_some_iff.mp hfound
      obtain ⟨hstored, hitem, hbin⟩ := existingRow?_spec db hexisting
      have hsame : found = row := List.inj_on_of_nodup_map db.inventory.keys_nodup hstored hrow hkey
      subst hsame
      exact ⟨⟨hitem.symm, hbin.symm⟩, by rw [hitem, hbin]; exact hexisting⟩
    · rintro ⟨⟨rfl, rfl⟩, hexisting⟩
      rw [hexisting, Option.map_some]
  simp only [credited, hfinds]
  by_cases hreturned : existingRow? db row.itemId row.binId none = some row
  · simp only [hreturned, and_true, if_true]
    exact sum_askedAt entries row.itemId row.binId
  · simp [hreturned]

/-- A row gives as much as it gets back exactly when it is the row units return to
and covers them all, or is another row and covers none. -/
theorem row_restored_iff {row : InventoryRow} (hrow : row ∈ db.inventory.rows)
    (entries : List (AdminPickEntry × SalesOrderLine)) :
    given row.available (askedAt entries row.itemId row.binId) =
        credited db entries row.inventoryId ↔
      if existingRow? db row.itemId row.binId none = some row then
        askedAt entries row.itemId row.binId = [] ∨
          (askedAt entries row.itemId row.binId).sum ≤ row.available
      else ∀ qty ∈ askedAt entries row.itemId row.binId, row.available < qty := by
  rw [credited_eq hrow]
  split
  · exact given_eq_sum_iff askedAt_pos row.available
  · exact given_eq_zero_iff askedAt_pos row.available

/-- The two counters of a line that a pick and its release write. -/
def pickCounters (line : SalesOrderLine) : ℤ × ℤ := (line.quantityPicked, line.quantityAllocated)

theorem demote_lines (soId : ℕ) (newStatus : SalesOrderStatus)
    (needUnpack needUnship : Bool) (db : Db) (k : ℕ) :
    ((demote soId newStatus needUnpack needUnship db).salesOrderLines.find? k).map
        pickCounters = (db.salesOrderLines.find? k).map pickCounters := by
  have hunpacked : ((unpackLines soId db).salesOrderLines.find? k).map pickCounters =
      (db.salesOrderLines.find? k).map pickCounters := by
    rw [unpackLines, Table.find?_update, Option.map_map]
    congr 1
    funext line
    rw [Function.comp_apply]
    split <;> rfl
  cases needUnpack <;> cases needUnship
  · rfl
  · rfl
  · exact hunpacked
  · exact hunpacked

theorem demote_inventory (soId : ℕ) (newStatus : SalesOrderStatus)
    (needUnpack needUnship : Bool) (db : Db) :
    (demote soId newStatus needUnpack needUnship db).inventory = db.inventory := by
  cases needUnpack <;> cases needUnship <;> rfl

/-- The stock, lines and tasks of a database. -/
structure SameWork (before after : Db) : Prop where
  inventory : after.inventory = before.inventory
  salesOrderLines : after.salesOrderLines = before.salesOrderLines
  pickTasks : after.pickTasks = before.pickTasks

/-- The promotion that follows a pick only writes the header and an event. -/
theorem sameWork_promote (ctx : RequestContext) (db : Db) (soId : ℕ) :
    SameWork db (maybePromoteSoToPicked ctx db soId) := by
  unfold maybePromoteSoToPicked
  split
  · exact ⟨rfl, rfl, rfl⟩
  · split
    · exact ⟨rfl, rfl, rfl⟩
    · split
      · unfold emitEvent
        split <;> exact ⟨rfl, rfl, rfl⟩
      · exact ⟨rfl, rfl, rfl⟩

/-- What the picks leave of the rows, the lines and the tasks. -/
structure Picked (db picked : Db) (entries : List (AdminPickEntry × SalesOrderLine))
    (tasks : List PickTask) : Prop where
  rows : picked.inventory.rows.map unstamped = db.inventory.rows.map (pickedRow entries)
  lines : ∀ k, picked.salesOrderLines.find? k =
    (db.salesOrderLines.find? k).map (pickedLine (askedFor entries k))
  stored : picked.pickTasks.rows = db.pickTasks.rows ++ tasks
  books : List.Forall₂ Books entries tasks
  covered : ∀ entry ∈ entries, ∃ row ∈ db.inventory.rows,
    row.itemId = entry.2.itemId ∧ row.binId = entry.1.binId ∧ entry.1.quantity ≤ row.available

theorem recordAdminPick_picked {ctx : RequestContext} {picked : Db}
    {request : AdminPickRequest} {batchId : ℕ}
    (hpicked : recordAdminPick ctx db request = .ok (picked, batchId)) :
    ∃ tasks, Picked db picked (withLines db request.soId request.picks) tasks := by
  simp only [recordAdminPick, bind_eq_ok, orThrow_eq_ok, require_eq_ok, pure_eq_ok,
    Prod.mk.injEq] at hpicked
  obtain ⟨order, -, -, -, -, -, -, -, -, -, -, -, _, happlied, rfl, -⟩ := hpicked
  obtain ⟨tasks, htasks, hbooks⟩ := applyAdminPicks_tasks happlied
  have hrows := applyAdminPicks_rows happlied
  have hlines := applyAdminPicks_lines happlied
  have hcovered := applyAdminPicks_covered happlied
  exact ⟨tasks, hrows, hlines, htasks, hbooks, hcovered⟩

theorem Picked.sameWork {picked between : Db} (hpicked : Picked db picked entries tasks)
    (hsame : SameWork picked between) : Picked db between entries tasks := by
  refine ⟨?_, ?_, ?_, hpicked.books, hpicked.covered⟩
  · rw [hsame.inventory]
    exact hpicked.rows
  · rw [hsame.salesOrderLines]
    exact hpicked.lines
  · rw [hsame.pickTasks]
    exact hpicked.stored

/-- The tasks of the entries are on the order of their lines. -/
theorem Picked.soId {db picked : Db} {entries : List (AdminPickEntry × SalesOrderLine)}
    {tasks : List PickTask} (hpicked : Picked db picked entries tasks) {soId : ℕ}
    (horder : ∀ entry ∈ entries, entry.2.soId = soId) :
    ∀ task ∈ tasks, task.soId? = some soId := by
  have hbooks := hpicked.books
  clear hpicked
  induction hbooks with
  | nil => exact fun task htask => absurd htask List.not_mem_nil
  | @cons entry task rest later hbooked _ ih =>
      apply List.forall_mem_cons.mpr ⟨?_, ih fun other hother =>
        horder other (List.mem_cons_of_mem _ hother)⟩
      rw [PickTask.soId?, hbooked.target, horder entry List.mem_cons_self]

/-- What is stored after the picks and the release, line by line and row by row. -/
structure ThereAndBack (db after : Db)
    (entries : List (AdminPickEntry × SalesOrderLine)) : Prop where
  line : ∀ k, (after.salesOrderLines.find? k).map pickCounters =
    (db.salesOrderLines.find? k).map fun line =>
      pickCounters (releasedLineOf (askedFor entries k) (pickedLine (askedFor entries k) line))
  row : ∀ row ∈ db.inventory.rows, (after.inventory.find? row.inventoryId).map unstamped =
    some (raised (credited db entries row.inventoryId -
      given row.available (askedAt entries row.itemId row.binId)) row)
  keys : (∀ entry ∈ entries, existingRow? db entry.2.itemId entry.1.binId none ≠ none) →
    after.inventory.rows.map InventoryRow.inventoryId =
      db.inventory.rows.map InventoryRow.inventoryId

theorem thereAndBack {revertCtx : RequestContext} {db between after : Db}
    {entries : List (AdminPickEntry × SalesOrderLine)} {tasks : List PickTask} {soId : ℕ}
    {reverted : RevertedOrder} (hpicked : Picked db between entries tasks)
    (horder : ∀ entry ∈ entries, entry.2.soId = soId)
    (hreverted : revertSalesOrderStatus revertCtx between
      ⟨soId, .soOpen, tasks.map PickTask.pickTaskId⟩ = .ok (after, reverted)) :
    ThereAndBack db after entries := by
  simp only [revertSalesOrderStatus, bind_eq_ok, orThrow_eq_ok, require_eq_ok,
    pure_eq_ok, Prod.mk.injEq] at hreverted
  obtain ⟨newIdx, -, order, -, -, -, -, -, curIdx, -, -, -, -, -, -, -, -, -, rfl,
    -⟩ := hreverted
  rw [namedTasks_created hpicked.stored (hpicked.soId horder)]
  have hbetween : between.inventory.rows.map InventoryRow.inventoryId =
      db.inventory.rows.map InventoryRow.inventoryId := by
    have hkeys := congrArg (List.map InventoryRow.inventoryId) hpicked.rows
    rw [List.map_map, List.map_map] at hkeys
    exact hkeys
  have hcredited : ∀ k, credited between entries k = credited db entries k := by
    intro k
    simp only [credited, existingRow?_key_picked hpicked.rows]
  refine ⟨?_, ?_, ?_⟩
  · intro k
    rw [demote_lines, releases_lines hpicked.books, hpicked.lines, Option.map_map, Option.map_map]
    rfl
  · intro row hrow
    have hlt : row.inventoryId < between.inventory.nextKey := by
      have hmem : row.inventoryId ∈
          between.inventory.rows.map InventoryRow.inventoryId := by
        rw [hbetween]
        exact List.mem_map_of_mem hrow
      obtain ⟨moved, hmoved, hkey⟩ := List.mem_map.mp hmem
      rw [← hkey]
      exact between.inventory.keys_lt moved hmoved
    have hfound : (between.inventory.find? row.inventoryId).map unstamped =
        some (pickedRow entries row) := by
      have hfind := congrArg (fun rows => rows.find? fun other : InventoryRow =>
        decide (other.inventoryId = row.inventoryId)) hpicked.rows
      simp only [List.find?_map] at hfind
      refine hfind.trans ?_
      change (db.inventory.find? row.inventoryId).map _ = _
      rw [Table.find?_eq_some_iff.mpr ⟨hrow, rfl⟩, Option.map_some]
    rw [demote_inventory, releases_rows hpicked.books between hlt, hcredited,
      ← raised_unstamped, ← Option.map_map, hfound, Option.map_some, pickedRow,
      ← Function.comp_apply (f := raised _), raised_raised, sub_eq_neg_add]
  · intro hfound
    rw [demote_inventory, releases_keys hpicked.books between, hbetween]
    intro entry hentry hnone
    have hkey := existingRow?_key_picked hpicked.rows entry.2.itemId entry.1.binId none
    rw [hnone, Option.map_none, eq_comm, Option.map_eq_none_iff] at hkey
    exact hfound entry hentry hkey

/-- Units on hand or reserved somewhere are sums over what a view of the rows
shows. -/
theorem totals_of_views {before after : Db}
    (hviews : (after.inventory.rows.map fun row =>
        (row.place, row.quantityOnHand, row.quantityAllocated)) =
      before.inventory.rows.map fun row =>
        (row.place, row.quantityOnHand, row.quantityAllocated)) (itemId binId : ℕ) :
    onHandAt after itemId binId = onHandAt before itemId binId ∧
      allocatedAt after itemId binId = allocatedAt before itemId binId := by
  have honhand := congrArg (fun views => (views.map fun view : Place × ℤ × ℤ =>
    if itemInBin itemId binId view.1 then view.2.1 else 0).sum) hviews
  have hallocated := congrArg (fun views => (views.map fun view : Place × ℤ × ℤ =>
    if itemInBin itemId binId view.1 then view.2.2 else 0).sum) hviews
  simp only [List.map_map] at honhand hallocated
  exact ⟨honhand, hallocated⟩

/-- Every bin of an undoable request has its row without a lot. -/
theorem Undoable.found {picked : Db} (hundoable : Undoable db entries)
    (hpicked : Picked db picked entries tasks) :
    ∀ entry ∈ entries, existingRow? db entry.2.itemId entry.1.binId none ≠ none := by
  intro entry hentry hnone
  obtain ⟨row, hstored, hitem, hbin, hcovers⟩ := hpicked.covered entry hentry
  have hother : existingRow? db row.itemId row.binId none ≠ some row := by
    rw [hitem, hbin, hnone]
    exact (Option.some_ne_none row).symm
  have hshort := hundoable.others row hstored hother entry.1.quantity
    (List.mem_map_of_mem (List.mem_filter.mpr ⟨hentry, by simp [hitem, hbin]⟩))
  omega

/-- The line of an undoable request keeps its counters. -/
theorem Undoable.counters_eq (hundoable : Undoable db entries)
    (hlines : ∀ entry ∈ entries,
      db.salesOrderLines.find? entry.1.soLineId = some entry.2) {line : SalesOrderLine}
    (hstored : line ∈ db.salesOrderLines.rows) :
    pickCounters (releasedLineOf (askedFor entries line.soLineId)
      (pickedLine (askedFor entries line.soLineId) line)) = pickCounters line := by
  by_cases hasked : askedFor entries line.soLineId = []
  · rw [hasked]
    rfl
  · obtain ⟨qty, hqty⟩ := List.exists_mem_of_ne_nil _ hasked
    obtain ⟨entry, hentry, -⟩ := List.mem_map.mp hqty
    obtain ⟨hmem, hkey⟩ := List.mem_filter.mp hentry
    have hfound := hlines entry hmem
    rw [of_decide_eq_true hkey, Table.find?_eq_some_iff.mpr ⟨hstored, rfl⟩,
      Option.some.injEq] at hfound
    have hreserved := hundoable.lines entry hmem
    rw [← hfound] at hreserved
    obtain ⟨hpickedSame, hallocatedSame⟩ :=
      (released_picked_iff askedFor_pos hasked line).mpr hreserved
    rw [pickCounters, hpickedSame, hallocatedSame, pickCounters]

/-- An admin pick and the release of its tasks leave the lines and the stock of an
order as they were exactly when both sides book the same units. -/
theorem pickUndone_iff {ctx revertCtx : RequestContext} {db picked between after : Db}
    {request : AdminPickRequest} {batchId : ℕ} {reverted : RevertedOrder}
    (hpicked : recordAdminPick ctx db request = .ok (picked, batchId))
    (hbetween : between = picked ∨ between = maybePromoteSoToPicked ctx picked request.soId)
    (hreverted : revertSalesOrderStatus revertCtx between
      ⟨request.soId, .soOpen, (Table.appended db.pickTasks picked.pickTasks).map
        PickTask.pickTaskId⟩ = .ok (after, reverted)) :
    PickUndone db after request.soId ↔
      Undoable db (withLines db request.soId request.picks) := by
  set entries := withLines db request.soId request.picks with hentries
  have hline : ∀ entry ∈ entries, db.salesOrderLines.find? entry.1.soLineId =
      some entry.2 ∧ entry.2.soId = request.soId := fun entry => mem_withLines
  obtain ⟨tasks, hspec⟩ := recordAdminPick_picked hpicked
  rw [Table.appended_eq hspec.stored] at hreverted
  have hsame : SameWork picked between := by
    cases hbetween with
    | inl hstays => exact hstays ▸ ⟨rfl, rfl, rfl⟩
    | inr hpromoted => exact hpromoted ▸ sameWork_promote ..
  have hback := thereAndBack (hspec.sameWork hsame)
    (fun entry hentry => (hline entry hentry).2) hreverted
  have hrow : ∀ row ∈ db.inventory.rows, ∃ restored,
      after.inventory.find? row.inventoryId = some restored ∧ restored.place = row.place ∧
        restored.quantityAllocated = row.quantityAllocated ∧
        restored.quantityOnHand = row.quantityOnHand +
          (credited db entries row.inventoryId -
            given row.available (askedAt entries row.itemId row.binId)) := by
    intro row hstored
    obtain ⟨restored, hfound, hview⟩ := Option.map_eq_some_iff.mp (hback.row row hstored)
    simp only [unstamped, raised, InventoryRow.mk.injEq] at hview
    obtain ⟨-, hitem, hbin, hwarehouse, honhand, hallocated, -⟩ := hview
    exact ⟨restored, hfound, by simp [InventoryRow.place, hitem, hbin, hwarehouse],
      hallocated, honhand⟩
  constructor
  · intro hundone
    have hrestored : ∀ row ∈ db.inventory.rows,
        given row.available (askedAt entries row.itemId row.binId) =
          credited db entries row.inventoryId := by
      intro row hstored
      obtain ⟨restored, hfound, -, -, honhand⟩ := hrow row hstored
      obtain ⟨found, hfound', hsameOnHand, -⟩ := hundone.rows row hstored
      rw [hfound, Option.some.injEq] at hfound'
      subst hfound'
      omega
    refine ⟨?_, ?_, ?_⟩
    · intro entry hentry
      obtain ⟨hstored, horder⟩ := hline entry hentry
      obtain ⟨hmem, hkey⟩ := Table.find?_eq_some_iff.mp hstored
      obtain ⟨found, hfound, hpickedSame, hallocatedSame⟩ :=
        hundone.lines entry.2 (mem_linesOf.mpr ⟨hmem, horder⟩)
      have hasked : askedFor entries entry.1.soLineId ≠ [] := by
        apply List.ne_nil_of_mem (a := entry.1.quantity)
        exact List.mem_map_of_mem (List.mem_filter.mpr ⟨hentry, by simp⟩)
      have hcounters := hback.line entry.1.soLineId
      rw [← hkey, hfound, hkey, hstored, Option.map_some, Option.map_some,
        Option.some.injEq] at hcounters
      simp only [pickCounters, Prod.mk.injEq] at hcounters
      exact (released_picked_iff askedFor_pos hasked entry.2).mp
        ⟨hcounters.1.symm.trans hpickedSame, hcounters.2.symm.trans hallocatedSame⟩
    · intro row hstored hreturned
      have hiff := (row_restored_iff hstored entries).mp (hrestored row hstored)
      rwa [if_pos hreturned] at hiff
    · intro row hstored hother
      have hiff := (row_restored_iff hstored entries).mp (hrestored row hstored)
      rwa [if_neg hother] at hiff
  · intro hundoable
    have hrestored : ∀ row ∈ db.inventory.rows,
        given row.available (askedAt entries row.itemId row.binId) =
          credited db entries row.inventoryId := by
      intro row hstored
      apply (row_restored_iff hstored entries).mpr
      split
      next hreturned => exact hundoable.returned row hstored hreturned
      next hother => exact hundoable.others row hstored hother
    have hsameRow : ∀ row ∈ db.inventory.rows, ∃ restored,
        after.inventory.find? row.inventoryId = some restored ∧ restored.place = row.place ∧
          restored.quantityOnHand = row.quantityOnHand ∧
          restored.quantityAllocated = row.quantityAllocated := by
      intro row hstored
      obtain ⟨restored, hfound, hplace, hallocated, honhand⟩ := hrow row hstored
      rw [hrestored row hstored, sub_self, add_zero] at honhand
      exact ⟨restored, hfound, hplace, honhand, hallocated⟩
    refine ⟨?_, ?_, ?_⟩
    · intro line hmem
      obtain ⟨hstored, -⟩ := mem_linesOf.mp hmem
      have hcounters := hback.line line.soLineId
      rw [Table.find?_eq_some_iff.mpr ⟨hstored, rfl⟩, Option.map_some,
        hundoable.counters_eq (fun entry hentry => (hline entry hentry).1) hstored,
        Option.map_eq_some_iff] at hcounters
      obtain ⟨restored, hfound, hsameCounters⟩ := hcounters
      simp only [pickCounters, Prod.mk.injEq] at hsameCounters
      exact ⟨restored, hfound, hsameCounters⟩
    · intro row hstored
      obtain ⟨restored, hfound, -, hsame⟩ := hsameRow row hstored
      exact ⟨restored, hfound, hsame⟩
    · intro itemId binId
      have hkeys := hback.keys (hundoable.found hspec)
      apply totals_of_views
      apply Table.map_view_eq _ hkeys
      intro k
      cases hfind : db.inventory.find? k with
      | none =>
          have hnone : after.inventory.find? k = none := by
            rw [Table.find?_eq_none_iff] at hfind ⊢
            intro row hmem hkey
            have hkept : row.inventoryId ∈
                db.inventory.rows.map InventoryRow.inventoryId := by
              rw [← hkeys]
              exact List.mem_map_of_mem hmem
            obtain ⟨old, hold, holdKey⟩ := List.mem_map.mp hkept
            exact hfind old hold (holdKey.trans hkey)
          rw [hnone]
      | some row =>
          obtain ⟨hstored, rfl⟩ := Table.find?_eq_some_iff.mp hfind
          obtain ⟨restored, hfound, hplace, honhand, hallocated⟩ := hsameRow row hstored
          rw [hfound, Option.map_some, Option.map_some, hplace, honhand, hallocated]

/-! ## Small picks -/

namespace SmallAdminPick

/-- Three units of the order's one line, from the first bin. -/
def request : AdminPickRequest :=
  { soId := 1
    picks := [⟨1, 1, 3, SmallWarehouse.three_pos, SmallWarehouse.three_inOrder⟩] }

/-- The outcome of the pick on a database. -/
def picked (db : Db) : Db × ℕ :=
  match recordAdminPick (SmallWarehouse.pat 5) db request with
  | .ok result => result
  | .error _ => (db, 0)

/-- The release of the task the pick created. -/
def release (db : Db) : RevertStatusRequest :=
  ⟨1, .soOpen, (Table.appended db.pickTasks (picked db).1.pickTasks).map PickTask.pickTaskId⟩

/-- The outcome of the release. -/
def reverted (db : Db) : Except ServiceError (Db × RevertedOrder) :=
  revertSalesOrderStatus (SmallWarehouse.pat 6) (picked db).1 (release db)

/-- The database after it. -/
def after (db : Db) : Db := committed (picked db).1 (reverted db)

/-- An order that was opened before its five units arrived. -/
def beforeStock : Db :=
  SmallWarehouse.after
    [SmallWarehouse.order "SO-1" [SmallWarehouse.line 3], SmallWarehouse.receive 1 5 none]

/-- An order that reserved its units when it was opened. -/
def afterStock : Db :=
  SmallWarehouse.after
    [SmallWarehouse.receive 1 9 none, SmallWarehouse.order "SO-1" [SmallWarehouse.line 3]]

theorem recordAdminPick_eq (hok : (recordAdminPick (SmallWarehouse.pat 5) db request).isOk) :
    recordAdminPick (SmallWarehouse.pat 5) db request =
      .ok ((picked db).1, (picked db).2) := by
  obtain ⟨result, hresult⟩ := exists_eq_ok _ hok
  rw [picked, hresult]

theorem reverted_eq (db : Db) (hok : (reverted db).isOk) :
    ∃ summary, reverted db = .ok (after db, summary) := by
  obtain ⟨result, hresult⟩ := exists_eq_ok _ hok
  exact ⟨result.2, by rw [after, hresult, committed]⟩

end SmallAdminPick

/-- A pick of units nobody reserved is undone by its release. -/
theorem pickUndone_beforeStock :
    PickUndone SmallAdminPick.beforeStock
      (SmallAdminPick.after SmallAdminPick.beforeStock) 1 := by
  obtain ⟨summary, hreverted⟩ :=
    SmallAdminPick.reverted_eq SmallAdminPick.beforeStock (by decide +kernel)
  apply (pickUndone_iff (SmallAdminPick.recordAdminPick_eq (by decide +kernel))
    (Or.inl rfl) hreverted).mpr
  exact ⟨by decide +kernel, by decide +kernel, by decide +kernel⟩

/-- The release of a pick takes a standing reservation off its line. -/
theorem not_pickUndone_afterStock :
    ¬ ∀ (ctx revertCtx : RequestContext) (db picked after : Db)
      (request : AdminPickRequest) (batchId : ℕ) (reverted : RevertedOrder),
      recordAdminPick ctx db request = .ok (picked, batchId) →
      revertSalesOrderStatus revertCtx picked
        ⟨request.soId, .soOpen, (Table.appended db.pickTasks picked.pickTasks).map
          PickTask.pickTaskId⟩ = .ok (after, reverted) →
      PickUndone db after request.soId := by
  intro hall
  obtain ⟨summary, hreverted⟩ :=
    SmallAdminPick.reverted_eq SmallAdminPick.afterStock (by decide +kernel)
  have hundone := hall (SmallWarehouse.pat 5) (SmallWarehouse.pat 6)
    SmallAdminPick.afterStock _ _ SmallAdminPick.request _ summary
    (SmallAdminPick.recordAdminPick_eq (by decide +kernel)) hreverted
  have hcounters : ∀ line ∈ linesOf SmallAdminPick.afterStock 1,
      ((SmallAdminPick.after SmallAdminPick.afterStock).salesOrderLines.find?
        line.soLineId).map SalesOrderLine.quantityAllocated =
          some line.quantityAllocated := by
    intro line hline
    obtain ⟨restored, hfound, -, hallocated⟩ := hundone.lines line hline
    rw [hfound, Option.map_some, hallocated]
  revert hcounters
  decide +kernel

end SentryWms.SalesOrders

import SentryWms.TransferOrders.Lifecycle

/-!
# Stock of an approval

An approval that goes through moves the positive quantities of its snapshot out of the
source warehouse, off the reservations and off the shelves alike, and into the
destination.  One that fails moves nothing.  An entry without units is skipped, and the
units arrive in the destination as long as the rows of a bin are recorded under the
bin's warehouse.
-/

namespace SentryWms.TransferOrders

open Relational Inventory

/-! ## What an approval promises -/

/-- Units of an item on hand in a warehouse. -/
def onHandIn (db : Db) (itemId warehouseId : ℕ) : ℤ :=
  onHandOver (itemInWarehouse itemId warehouseId) db

/-- The snapshotted units of an item. -/
def snapshottedUnits (entries : List (ℕ × ℕ × ℤ)) (itemId : ℕ) : ℤ :=
  (entries.map fun entry => if entry.2.1 = itemId then entry.2.2 else 0).sum

/-- The units of an item an approval moves: entries without units are skipped. -/
def movedUnits (entries : List (ℕ × ℕ × ℤ)) (itemId : ℕ) : ℤ :=
  (entries.map fun entry => if entry.2.1 = itemId then max 0 entry.2.2 else 0).sum

/-- No row has a negative quantity. -/
def StockNonneg (db : Db) : Prop :=
  ∀ row ∈ db.inventory.rows, 0 ≤ row.quantityAllocated ∧ 0 ≤ row.quantityOnHand

/-- Every row is recorded under the warehouse of its bin. -/
def RowsInBinWarehouse (db : Db) : Prop :=
  ∀ row ∈ db.inventory.rows, ∀ bin ∈ db.bins.find? row.binId, row.warehouseId = bin.warehouseId

/-- Units of each item out of the source, and into the destination. -/
structure StockMoved (units : ℕ → ℤ) (sourceWarehouseId destinationWarehouseId : ℕ)
    (before after : Db) : Prop where
  allocated : ∀ itemId, allocatedIn after itemId sourceWarehouseId =
    allocatedIn before itemId sourceWarehouseId - units itemId
  taken : ∀ itemId, onHandIn after itemId sourceWarehouseId =
    onHandIn before itemId sourceWarehouseId - units itemId
  arrived : ∀ itemId, onHandIn after itemId destinationWarehouseId =
    onHandIn before itemId destinationWarehouseId + units itemId
  nonneg : StockNonneg after

/-- The answer of the route conserves stock, for a reading of what a snapshot moves. -/
def ApprovalConserves (units : List (ℕ × ℕ × ℤ) → ℕ → ℤ) (ctx : RequestContext) (db : Db)
    (toId toApprovalId : ℕ) : Prop :=
  match approveTransferOrderApproval ctx db toId toApprovalId with
  | .error _ => committed db (approveTransferOrderApproval ctx db toId toApprovalId) = db
  | .ok (approved, _) =>
      ∀ approval ∈ db.transferOrderApprovals.find? toApprovalId,
        ∀ header ∈ db.transferOrders.find? toId,
          StockMoved (units approval.linesSnapshot) header.sourceWarehouseId
            header.destinationWarehouseId db approved

/-! ## Leaving the source -/

/-- An approval takes no more from a stored row than is on its shelf. -/
theorem consumed_le_onHand {db : Db} (hnonneg : StockNonneg db)
    (itemId warehouseId : ℕ) (qty : ℤ) {row : InventoryRow}
    (hrow : row ∈ db.inventory.rows) :
    takenAt InventoryRow.inventoryId row.inventoryId
      (consumedTakes db itemId warehouseId qty) ≤ row.quantityOnHand :=
  consumed_le_of itemId warehouseId qty hrow (hnonneg row hrow).2 (min_le_right _ _)

/-- Units of a set of places that are not reserved. -/
theorem onHandOver_sub_allocatedOver (places : Place → Bool) (db : Db) :
    onHandOver places db - allocatedOver places db =
      db.inventory.sum fun row => if places row.place then row.available else 0 := by
  rw [onHandOver, allocatedOver, ← Table.sum_sub]
  apply Table.sum_congr
  intro row _
  by_cases hin : places row.place <;> simp [hin, InventoryRow.available]

/-- What leaves the reservations of a set of places leaves its shelves. -/
theorem onHandOver_consume (places : Place → Bool) (now : ℕ) (db : Db)
    (takes : List (InventoryRow × ℤ)) :
    onHandOver places (run (consume now) db takes) =
      onHandOver places db +
        (allocatedOver places (run (consume now) db takes) - allocatedOver places db) := by
  have hspare : onHandOver places (run (consume now) db takes) -
        allocatedOver places (run (consume now) db takes) =
      onHandOver places db - allocatedOver places db := by
    rw [onHandOver_sub_allocatedOver, onHandOver_sub_allocatedOver]
    simp only [Table.sum, consume_rows, List.map_map]
    apply congrArg List.sum
    apply List.map_congr_left
    intro row _
    change (if places row.place then _ - _ - (_ - _) else 0) =
      if places row.place then _ - _ else 0
    rw [sub_sub_sub_cancel_right]
  linarith

variable {now itemId warehouseId : ℕ} {qty : ℤ} {db' : Db}

theorem decrement_run {db : Db}
    (htaken : decrementSourceInventory now itemId warehouseId qty db = .ok db') :
    db' = run (consume now) db (consumedTakes db itemId warehouseId qty) := by
  simp only [decrementSourceInventory, bind_eq_ok, require_eq_ok, pure_eq_ok] at htaken
  obtain ⟨-, -, rfl⟩ := htaken
  rfl

/-- A decrement leaves no row negative. -/
theorem StockNonneg.decrement {db : Db} (hnonneg : StockNonneg db)
    (htaken : decrementSourceInventory now itemId warehouseId qty db = .ok db') :
    StockNonneg db' := by
  rw [decrement_run htaken]
  intro consumed hconsumed
  rw [consume_rows] at hconsumed
  obtain ⟨row, hrow, rfl⟩ := List.mem_map.mp hconsumed
  have halloc : AllocatedNonneg db := fun other hother => (hnonneg other hother).1
  have hreserved := consumed_le halloc itemId warehouseId qty hrow
  have hshelf := consumed_le_onHand hnonneg itemId warehouseId qty hrow
  dsimp only
  constructor <;> linarith

theorem run_consume_bins (now : ℕ) (takes : List (InventoryRow × ℤ)) (db : Db) :
    (run (consume now) db takes).bins = db.bins := by
  have hstep : ∀ db take, (consume now db take).bins = db.bins := fun _ _ => rfl
  exact run_unchanged Db.bins hstep db takes

theorem RowsInBinWarehouse.decrement {db : Db} (hplaced : RowsInBinWarehouse db)
    (htaken : decrementSourceInventory now itemId warehouseId qty db = .ok db') :
    RowsInBinWarehouse db' := by
  rw [decrement_run htaken]
  intro consumed hconsumed bin hbin
  rw [consume_rows] at hconsumed
  obtain ⟨row, hrow, rfl⟩ := List.mem_map.mp hconsumed
  rw [run_consume_bins] at hbin
  exact hplaced row hrow bin hbin

/-! ## Arriving at the destination -/

/-- Stock arriving at a place raises the totals of the place, where the row it joins is
at that place. -/
theorem onHandOver_addInventory (places : Place → Bool) (db : Db)
    (now itemId binId warehouseId : ℕ) (quantity : ℤ) (lotNumber : Option String)
    (hplace : ∀ row, existingRow? db itemId binId lotNumber = some row →
      row.place = ⟨itemId, binId, warehouseId⟩) :
    onHandOver places (addInventory now itemId binId warehouseId quantity lotNumber db) =
      onHandOver places db +
        if places ⟨itemId, binId, warehouseId⟩ then quantity else 0 := by
  cases hrow : existingRow? db itemId binId lotNumber with
  | none =>
      simp only [onHandOver, addInventory, hrow, Table.sum_insert]
      rfl
  | some row =>
      obtain ⟨hstored, -, -⟩ := existingRow?_spec db hrow
      have hadd : addInventory now itemId binId warehouseId quantity lotNumber db =
          addOnHand now quantity row.inventoryId db := by
        simp only [addInventory, hrow]
        rfl
      rw [hadd, onHandOver_addOnHand places db now quantity hstored, hplace row hrow]

theorem stagingBin?_spec {db : Db} {bin : Bin} (hbin : stagingBin? db warehouseId = some bin) :
    db.bins.find? bin.binId = some bin ∧ bin.warehouseId = warehouseId := by
  have hmem := List.mem_of_mem_head? hbin
  rw [mem_orderBy, Table.select, List.mem_filter] at hmem
  simp only [decide_eq_true_eq] at hmem
  exact ⟨Table.find?_eq_some_iff.mpr ⟨hmem.1, rfl⟩, hmem.2.1⟩

section Credit

variable {now itemId destWarehouseId : ℕ} {qty : ℤ} {db db' : Db}

theorem credit_bin
    (hcredited : creditDestinationInventory now itemId destWarehouseId qty db = .ok db') :
    ∃ bin, db.bins.find? bin.binId = some bin ∧ bin.warehouseId = destWarehouseId ∧
      db' = addInventory now itemId bin.binId destWarehouseId qty none db := by
  simp only [creditDestinationInventory, bind_eq_ok, orThrow_eq_ok, pure_eq_ok] at hcredited
  obtain ⟨bin, hbin, rfl⟩ := hcredited
  obtain ⟨hfind, hwarehouse⟩ := stagingBin?_spec hbin
  exact ⟨bin, hfind, hwarehouse, rfl⟩

/-- A credit raises the item's units in the destination, and no others. -/
theorem onHandIn_credit (hplaced : RowsInBinWarehouse db)
    (hcredited : creditDestinationInventory now itemId destWarehouseId qty db = .ok db')
    (otherItem otherWarehouse : ℕ) :
    onHandIn db' otherItem otherWarehouse =
      onHandIn db otherItem otherWarehouse +
        if itemId = otherItem ∧ destWarehouseId = otherWarehouse then qty else 0 := by
  obtain ⟨bin, hfind, hwarehouse, rfl⟩ := credit_bin hcredited
  rw [onHandIn, onHandOver_addInventory, onHandIn]
  · simp [itemInWarehouse]
  · intro row hrow
    obtain ⟨hstored, hitem, hbin⟩ := existingRow?_spec db hrow
    have hrecorded := hplaced row hstored bin (by rw [hbin, hfind]; rfl)
    rw [InventoryRow.place, hitem, hbin, hrecorded, hwarehouse]

theorem StockNonneg.credit (hnonneg : StockNonneg db) (hqty : 0 ≤ qty)
    (hcredited : creditDestinationInventory now itemId destWarehouseId qty db = .ok db') :
    StockNonneg db' := by
  obtain ⟨bin, -, -, rfl⟩ := credit_bin hcredited
  intro added hadded
  unfold addInventory at hadded
  split at hadded
  · obtain ⟨row, hrow, rfl⟩ := List.mem_map.mp hadded
    obtain ⟨halloc, hshelf⟩ := hnonneg row hrow
    split
    · exact ⟨halloc, add_nonneg hshelf hqty⟩
    · exact ⟨halloc, hshelf⟩
  · cases List.mem_append.mp hadded with
    | inl hold => exact hnonneg added hold
    | inr hnew =>
        rw [List.mem_singleton.mp hnew]
        exact ⟨le_rfl, hqty⟩

theorem RowsInBinWarehouse.credit (hplaced : RowsInBinWarehouse db)
    (hcredited : creditDestinationInventory now itemId destWarehouseId qty db = .ok db') :
    RowsInBinWarehouse db' := by
  obtain ⟨bin, hfind, hwarehouse, rfl⟩ := credit_bin hcredited
  intro added hadded other hother
  unfold addInventory at hadded hother
  split at hadded
  · rename_i hexisting
    simp only [hexisting] at hother
    obtain ⟨row, hrow, rfl⟩ := List.mem_map.mp hadded
    have hold := hplaced row hrow other
    split at hother
    · rw [if_pos ‹_›]
      exact hold hother
    · rw [if_neg ‹_›]
      exact hold hother
  · rename_i hexisting
    simp only [hexisting] at hother
    cases List.mem_append.mp hadded with
    | inl hold => exact hplaced added hold other hother
    | inr hnew =>
        rw [List.mem_singleton.mp hnew] at hother ⊢
        rw [hfind] at hother
        cases hother
        exact hwarehouse.symm

end Credit

/-! ## The entries of a snapshot -/

theorem StockMoved.refl {db : Db} (hnonneg : StockNonneg db)
    (sourceWarehouseId destinationWarehouseId : ℕ) :
    StockMoved (fun _ => 0) sourceWarehouseId destinationWarehouseId db db where
  allocated := fun _ => (sub_zero _).symm
  taken := fun _ => (sub_zero _).symm
  arrived := fun _ => (add_zero _).symm
  nonneg := hnonneg

theorem StockMoved.trans {first second : ℕ → ℤ}
    {sourceWarehouseId destinationWarehouseId : ℕ} {before middle after : Db}
    (hfirst : StockMoved first sourceWarehouseId destinationWarehouseId before middle)
    (hsecond : StockMoved second sourceWarehouseId destinationWarehouseId middle after) :
    StockMoved (fun itemId => first itemId + second itemId) sourceWarehouseId
      destinationWarehouseId before after where
  allocated := by
    intro itemId
    rw [hsecond.allocated, hfirst.allocated, sub_sub]
  taken := by
    intro itemId
    rw [hsecond.taken, hfirst.taken, sub_sub]
  arrived := by
    intro itemId
    rw [hsecond.arrived, hfirst.arrived, add_assoc]
  nonneg := hsecond.nonneg

section Entries

variable {now : ℕ} {header : TransferOrder}

theorem approveLine_stock {toLineId : ℕ} {db credited : Db}
    (hcredited : approveLine toLineId qty db = .ok credited) :
    credited.inventory = db.inventory ∧ credited.bins = db.bins := by
  simp only [approveLine, bind_eq_ok, require_eq_ok, pure_eq_ok] at hcredited
  obtain ⟨-, -, rfl⟩ := hcredited
  exact ⟨rfl, rfl⟩

/-- One entry moves its units, if it has any. -/
theorem moveEntry_moved {entry : ℕ × ℕ × ℤ} {db moved : Db}
    (hdistinct : header.sourceWarehouseId ≠ header.destinationWarehouseId)
    (hnonneg : StockNonneg db) (hplaced : RowsInBinWarehouse db)
    (hmove : moveEntry now header entry db = .ok moved) :
    StockMoved (fun itemId => if entry.2.1 = itemId then max 0 entry.2.2 else 0)
        header.sourceWarehouseId header.destinationWarehouseId db moved ∧
      RowsInBinWarehouse moved := by
  obtain ⟨toLineId, itemId, qty⟩ := entry
  rw [moveEntry] at hmove
  by_cases hnone : qty ≤ 0
  · rw [if_pos hnone] at hmove
    cases hmove
    have hzero : (fun other => if itemId = other then max 0 qty else 0) = fun _ => 0 := by
      funext other
      rw [max_eq_left hnone, ite_self]
    refine ⟨?_, hplaced⟩
    rw [hzero]
    exact StockMoved.refl hnonneg _ _
  · rw [if_neg hnone] at hmove
    simp only [bind_eq_ok] at hmove
    obtain ⟨credited, hcredited, taken, htaken, hcredit⟩ := hmove
    obtain ⟨hinventory, hbins⟩ := approveLine_stock hcredited
    have hqty : 0 ≤ qty := (not_le.mp hnone).le
    have hnonneg' : StockNonneg credited := by
      intro row hrow
      exact hnonneg row (hinventory ▸ hrow)
    have hplaced' : RowsInBinWarehouse credited := by
      intro row hrow bin hbin
      exact hplaced row (hinventory ▸ hrow) bin (hbins ▸ hbin)
    have hallocated := allocatedIn_decrement hqty htaken
    have hshelves : ∀ other warehouseId, onHandIn taken other warehouseId =
        onHandIn db other warehouseId -
          if itemId = other ∧ header.sourceWarehouseId = warehouseId then qty else 0 := by
      intro other warehouseId
      have hsame := hallocated other warehouseId
      have hrun := onHandOver_consume (itemInWarehouse other warehouseId) now credited
        (consumedTakes credited itemId header.sourceWarehouseId qty)
      rw [← decrement_run htaken] at hrun
      rw [allocatedIn, allocatedIn] at hsame
      have hbefore : onHandIn db other warehouseId =
          onHandOver (itemInWarehouse other warehouseId) credited := by
        rw [onHandIn, onHandOver, onHandOver, hinventory]
      rw [onHandIn, hrun, hbefore]
      linarith
    have harrived := onHandIn_credit (hplaced'.decrement htaken) hcredit
    refine ⟨⟨?_, ?_, ?_, (hnonneg'.decrement htaken).credit hqty hcredit⟩,
      (hplaced'.decrement htaken).credit hcredit⟩
    · intro other
      obtain ⟨bin, -, -, rfl⟩ := credit_bin hcredit
      have hbefore : allocatedIn credited other header.sourceWarehouseId =
          allocatedIn db other header.sourceWarehouseId := by
        rw [allocatedIn, allocatedIn, allocatedOver, allocatedOver, hinventory]
      rw [allocatedIn, allocatedOver_addInventory, ← allocatedIn, hallocated, hbefore]
      simp [max_eq_right hqty]
    · intro other
      have hapart : ¬ (itemId = other ∧
          header.destinationWarehouseId = header.sourceWarehouseId) :=
        fun h => hdistinct h.2.symm
      rw [harrived, if_neg hapart, hshelves]
      simp [max_eq_right hqty]
    · intro other
      have hapart : ¬ (itemId = other ∧
          header.sourceWarehouseId = header.destinationWarehouseId) :=
        fun h => hdistinct h.2
      rw [harrived, hshelves, if_neg hapart]
      simp [max_eq_right hqty]

/-- The entries of a snapshot move the units of each. -/
theorem moveEntries_moved {entries : List (ℕ × ℕ × ℤ)} {db moved : Db}
    (hdistinct : header.sourceWarehouseId ≠ header.destinationWarehouseId)
    (hnonneg : StockNonneg db) (hplaced : RowsInBinWarehouse db)
    (hmoves : moveEntries now header entries db = .ok moved) :
    StockMoved (movedUnits entries) header.sourceWarehouseId
      header.destinationWarehouseId db moved := by
  induction entries generalizing db with
  | nil =>
      cases hmoves
      exact StockMoved.refl hnonneg _ _
  | cons entry rest ih =>
      simp only [moveEntries, bind_eq_ok] at hmoves
      obtain ⟨next, hmove, hrest⟩ := hmoves
      obtain ⟨hmoved, hnext⟩ := moveEntry_moved hdistinct hnonneg hplaced hmove
      exact hmoved.trans (ih hmoved.nonneg hnext hrest)

end Entries

/-! ## The whole approval -/

/-- The order of the entries does not matter to what they move. -/
theorem movedUnits_perm {entries sorted : List (ℕ × ℕ × ℤ)} (hperm : sorted.Perm entries) :
    movedUnits sorted = movedUnits entries := by
  funext itemId
  exact (hperm.map _).sum_eq

theorem finishApproval_inventory (ctx : RequestContext) (header : TransferOrder)
    (approval : TransferOrderApproval) (moved : Db) :
    (finishApproval ctx header approval moved).inventory = moved.inventory := by
  rw [finishApproval]
  split
  · rw [emitEvent]
    split <;> split <;> rfl
  · split <;> rfl

/-- An approval fails and changes nothing, or it moves the positive quantities of its
snapshot from the source warehouse to the destination. -/
theorem approval_conserves (ctx : RequestContext) (db : Db) (toId toApprovalId : ℕ)
    (hdistinct : ∀ header ∈ db.transferOrders.rows,
      header.sourceWarehouseId ≠ header.destinationWarehouseId)
    (hplaced : RowsInBinWarehouse db) (hnonneg : StockNonneg db) :
    ApprovalConserves movedUnits ctx db toId toApprovalId := by
  rw [ApprovalConserves]
  cases happrove : approveTransferOrderApproval ctx db toId toApprovalId with
  | error refusal => rfl
  | ok served =>
      obtain ⟨approved, moves⟩ := served
      intro approval happroval header hheader
      simp only [approveTransferOrderApproval, loadPendingApproval, orApprovalFailed_eq_ok,
        bind_eq_ok, orThrow_eq_ok, require_eq_ok, pure_eq_ok, Option.filter_eq_some_iff] at happrove
      obtain ⟨_, ⟨found, ⟨hfound, -⟩, -, -, rfl⟩, -, -, order, horder, -, -, moved, hmoves,
        hresult⟩ := happrove
      rw [Option.mem_def, hfound] at happroval
      cases happroval
      rw [Option.mem_def, horder] at hheader
      cases hheader
      cases hresult
      have hmoved := moveEntries_moved (hdistinct header (Table.find?_mem horder)) hnonneg
        hplaced hmoves
      rw [snapshotEntries, movedUnits_perm (orderBy_perm _ _)] at hmoved
      have hinventory := finishApproval_inventory ctx header approval moved
      constructor
      · intro itemId
        rw [← hmoved.allocated, allocatedIn, allocatedOver, hinventory]
        rfl
      · intro itemId
        rw [← hmoved.taken, onHandIn, onHandOver, hinventory]
        rfl
      · intro itemId
        rw [← hmoved.arrived, onHandIn, onHandOver, hinventory]
        rfl
      · intro row hrow
        rw [hinventory] at hrow
        exact hmoved.nonneg row hrow

/-! ## Approvals in the small warehouses -/

namespace SmallApproval

/-- Four reserved units in `WEST`, and an order whose submission waits for its answer. -/
def db (linesSnapshot : List (ℕ × ℕ × ℤ)) : Db :=
  { SmallTransfer.db with
    inventory := Table.empty.insert fun inventoryId =>
      { inventoryId := inventoryId
        itemId := 1
        binId := 1
        warehouseId := 1
        quantityOnHand := 5
        quantityAllocated := 4
        updatedAt := 0 }
    transferOrders := Table.empty.insert fun toId =>
      { toId := toId
        toNumber := "TO-1"
        sourceWarehouseId := 1
        destinationWarehouseId := 2
        status := .toAwaitingApproval }
    transferOrderLines := Table.empty.insert fun toLineId =>
      { toLineId := toLineId
        toId := 1
        itemId := 1
        lineNumber := 1
        requestedQty := 4
        committedQty := 4
        pickedQty := 4
        status := .toLinePicked }
    transferOrderApprovals := Table.empty.insert fun toApprovalId =>
      { toApprovalId := toApprovalId
        toId := 1
        submittedBy := "sam"
        linesSnapshot := linesSnapshot } }

/-- The same with a row of the staging bin in `EAST` recorded under `WEST`. -/
def strayDb : Db :=
  { db [(1, 1, 4)] with
    inventory := (db [(1, 1, 4)]).inventory.insert fun inventoryId =>
      { inventoryId := inventoryId
        itemId := 1
        binId := 3
        warehouseId := 1
        updatedAt := 0 } }

end SmallApproval

theorem approval_conserves_twoEntries :
    ApprovalConserves movedUnits (SmallWarehouse.pat 1)
      (SmallApproval.db [(1, 1, 3), (1, 1, 1)]) 1 1 :=
  approval_conserves _ _ 1 1 (by decide)
    (by
      intro row hrow bin hbin
      rw [List.mem_singleton.mp hrow] at hbin ⊢
      cases hbin
      rfl)
    (by unfold StockNonneg; decide)

/-- An entry without units takes nothing back, and units that join a row of another
warehouse do not reach the destination. -/
theorem approval_moves_otherwise :
    ¬ ApprovalConserves snapshottedUnits (SmallWarehouse.pat 1)
        (SmallApproval.db [(1, 1, 4), (1, 1, -1)]) 1 1 ∧
      ¬ ApprovalConserves snapshottedUnits (SmallWarehouse.pat 1) SmallApproval.strayDb 1 1 := by
  constructor
  · intro hconserves
    have hmoved := hconserves _ rfl _ rfl
    exact absurd (hmoved.taken 1) (by decide +kernel)
  · intro hconserves
    have hmoved := hconserves _ rfl _ rfl
    exact absurd (hmoved.arrived 1) (by decide +kernel)

end SentryWms.TransferOrders

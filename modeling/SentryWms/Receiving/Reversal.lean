import SentryWms.Receiving.Ledger
import SentryWms.Stock.Reserved

/-!
# The stock a reversal takes back

Reversing one receipt checks the unreserved units of the whole warehouse and then
walks them: one row of the receipt's bin, and the rows of every other bin.  A bin
with several lots has a row for each, and the lookup of the receipt's bin returns
one of them in no particular order, so it is a parameter here.  The other rows of
that bin are counted and never walked.
-/

namespace SentryWms.Receiving

open Relational Inventory

/-! ## The reversal at the row its lookup returns -/

/-- The row is one of the receipt's own bin. -/
def atOrigin (receipt : ItemReceipt) (row : InventoryRow) : Bool :=
  row.itemId = receipt.itemId ∧ row.binId = receipt.binId ∧ row.warehouseId = receipt.warehouseId

/-- What the lookup of the receipt's bin may return: any row there, and nothing only
where there is none. -/
def MayReturn (db : Db) (receipt : ItemReceipt) : Option InventoryRow → Prop
  | some row => row ∈ db.inventory.rows ∧ atOrigin receipt row
  | none => ∀ row ∈ db.inventory.rows, ¬ atOrigin receipt row

/-- The rows the walk visits. -/
def walkedRows (db : Db) (receipt : ItemReceipt) (original : Option InventoryRow) :
    List InventoryRow :=
  (original.filter fun row => 0 < row.available).toList ++ otherRows db receipt

/-- `record_unreceive`, with the row the lookup of the receipt's bin returns. -/
def recordUnreceiveAt (ctx : RequestContext) (original : Option InventoryRow) (db : Db)
    (receiptId : ℕ) : Except ServiceError (Db × Unreceived) :=
  recordUnreceiveOf ctx (fun receipt => walkedRows db receipt original) db receiptId

/-! ## The promise -/

/-- What the reversal of a receipt promises about stock. -/
structure ExactReversal (ctx : RequestContext) (original : Option InventoryRow)
    (db : Db) (receiptId : ℕ) : Prop where
  refused : ∀ error, recordUnreceiveAt ctx original db receiptId = .error error →
    committed db (recordUnreceiveAt ctx original db receiptId) = db
  removed : ∀ after unreceived,
    recordUnreceiveAt ctx original db receiptId = .ok (after, unreceived) →
      ∃ receipt, db.itemReceipts.find? receiptId = some receipt ∧
        onHandOver (itemInWarehouse receipt.itemId receipt.warehouseId) after =
          onHandOver (itemInWarehouse receipt.itemId receipt.warehouseId) db -
            receipt.quantityReceived
  kept : ∀ after unreceived,
    recordUnreceiveAt ctx original db receiptId = .ok (after, unreceived) →
      ∀ row ∈ after.inventory.rows,
        row ∈ db.inventory.rows ∨ row.quantityAllocated ≤ row.quantityOnHand
  served : ∀ receipt, db.itemReceipts.find? receiptId = some receipt → receipt.poId ≠ none →
    receipt.quantityReceived ≤ warehouseAvailable db receipt.itemId receipt.warehouseId →
    (recordUnreceiveAt ctx original db receiptId).isOk

/-! ## What is walked and what is counted -/

/-- The unreserved units of the receipt's bin outside the row that is walked. -/
def overlooked (db : Db) (receipt : ItemReceipt) (original : Option InventoryRow) : ℤ :=
  db.inventory.sum fun row =>
    if atOrigin receipt row ∧ original.map InventoryRow.inventoryId ≠ some row.inventoryId
    then max 0 (row.quantityOnHand - row.quantityAllocated) else 0

variable {receipt : ItemReceipt} {original : Option InventoryRow} {row : InventoryRow}

theorem mem_walkedRows {db : Db} (hreturn : MayReturn db receipt original)
    (hrow : row ∈ walkedRows db receipt original) :
    row ∈ db.inventory.rows ∧ row.itemId = receipt.itemId ∧
      row.warehouseId = receipt.warehouseId ∧ 0 < row.available := by
  rcases List.mem_append.mp hrow with horiginal | hother
  · rw [Option.mem_toList, Option.filter_eq_some_iff] at horiginal
    obtain ⟨rfl, hgives⟩ := horiginal
    obtain ⟨hstored, horigin⟩ := hreturn
    have hplace := of_decide_eq_true horigin
    exact ⟨hstored, hplace.1, hplace.2.2, of_decide_eq_true hgives⟩
  · have hselected := List.mem_filter.mp (mem_orderBy.mp hother)
    have htest := of_decide_eq_true hselected.2
    exact ⟨hselected.1, htest.1, htest.2.1, htest.2.2.2⟩

/-- The walk visits no row twice: the other rows are of other bins. -/
theorem walkedRows_keys {db : Db} (hreturn : MayReturn db receipt original) :
    ((walkedRows db receipt original).map InventoryRow.inventoryId).Nodup := by
  have hothers : ((otherRows db receipt).map InventoryRow.inventoryId).Nodup :=
    ((orderBy_perm _ _).map InventoryRow.inventoryId).nodup_iff.mpr
      ((List.filter_sublist.map InventoryRow.inventoryId).nodup db.inventory.keys_nodup)
  unfold walkedRows
  cases hgives : original.filter fun row => 0 < row.available with
  | none => simpa using hothers
  | some row =>
      rw [Option.filter_eq_some_iff] at hgives
      obtain ⟨rfl, -⟩ := hgives
      obtain ⟨hstored, horigin⟩ := hreturn
      rw [Option.toList_some, List.singleton_append, List.map_cons, List.nodup_cons]
      refine ⟨?_, hothers⟩
      intro hmem
      obtain ⟨other, hother, hkey⟩ := List.mem_map.mp hmem
      have hselected := List.mem_filter.mp (mem_orderBy.mp hother)
      have hsame : other = row :=
        List.inj_on_of_nodup_map db.inventory.keys_nodup hselected.1 hstored hkey
      rw [hsame] at hselected
      exact (of_decide_eq_true hselected.2).2.2.1 (of_decide_eq_true horigin).2.1

/-- The row with the returned row's key is the returned row. -/
theorem atOrigin_of_returned {db : Db} (hreturn : MayReturn db receipt original)
    (hrow : row ∈ db.inventory.rows)
    (hkey : original.map InventoryRow.inventoryId = some row.inventoryId) :
    atOrigin receipt row = true := by
  obtain ⟨found, rfl, hfound⟩ := Option.map_eq_some_iff.mp hkey
  have hsame : found = row := List.inj_on_of_nodup_map db.inventory.keys_nodup hreturn.1 hrow hfound
  rw [← hsame]
  exact hreturn.2

/-- The rows of the walk give what the check counts, less what the walk
overlooks. -/
theorem walkedRows_available {db : Db} (hreturn : MayReturn db receipt original) :
    ((walkedRows db receipt original).map InventoryRow.available).sum =
      warehouseAvailable db receipt.itemId receipt.warehouseId -
        overlooked db receipt original := by
  have hothers : ((otherRows db receipt).map InventoryRow.available).sum =
      db.inventory.sum fun row =>
        if row.itemId = receipt.itemId ∧ row.warehouseId = receipt.warehouseId ∧
            row.binId ≠ receipt.binId ∧ 0 < row.available
        then row.available else 0 := by
    rw [otherRows, ((orderBy_perm _ _).map InventoryRow.available).sum_eq, Table.sum_select]
    simp only [decide_eq_true_eq]
  have horiginal : (((original.filter fun row => 0 < row.available).toList).map
        InventoryRow.available).sum =
      db.inventory.sum fun row =>
        if original.map InventoryRow.inventoryId = some row.inventoryId
        then max 0 row.available else 0 := by
    cases original with
    | none => simp
    | some row =>
        have hfind : db.inventory.find? row.inventoryId = some row :=
          Table.find?_eq_some_iff.mpr ⟨hreturn.1, rfl⟩
        have hsum := Table.sum_at_key db.inventory row.inventoryId
          fun other => max 0 other.available
        rw [hfind, Option.elim_some] at hsum
        simp only [Option.map_some, Option.some.injEq]
        simp only [eq_comm (a := row.inventoryId)]
        rw [hsum]
        by_cases hgives : 0 < row.available
        · simp [Option.filter, hgives, hgives.le]
        · simp [Option.filter, hgives, not_lt.mp hgives]
  rw [walkedRows, List.map_append, List.sum_append, hothers, horiginal,
    ← Table.sum_add, warehouseAvailable, overlooked, ← Table.sum_sub]
  apply Table.sum_congr
  intro row hstored
  change _ = (if _ then max 0 row.available else 0) -
    (if _ then max 0 row.available else 0)
  by_cases hreturned : original.map InventoryRow.inventoryId = some row.inventoryId
  · have hplace := of_decide_eq_true (atOrigin_of_returned hreturn hstored hreturned)
    simp [hreturned, hplace]
  · simp only [hreturned, if_false, ne_eq, not_false_eq_true, and_true, atOrigin, decide_eq_true_eq]
    by_cases hitem : row.itemId = receipt.itemId
    · by_cases hwarehouse : row.warehouseId = receipt.warehouseId
      · by_cases hbin : row.binId = receipt.binId
        · simp [hitem, hwarehouse, hbin]
        · by_cases hgives : 0 < row.available
          · simp [hitem, hwarehouse, hbin, hgives, hgives.le]
          · simp [hitem, hwarehouse, hbin, hgives, not_lt.mp hgives]
      · simp [hwarehouse]
    · simp [hitem]

/-! ## What the walk does to the rows -/

/-- A walk lowers the shelf of each row by what it takes there. -/
theorem subtractOnHand_rows (now : ℕ) (db : Db) (takes : List (InventoryRow × ℤ)) :
    (run (subtractOnHand now) db takes).inventory.rows =
      db.inventory.rows.map fun row =>
        { row with
          quantityOnHand := row.quantityOnHand -
            takenAt InventoryRow.inventoryId row.inventoryId takes
          updatedAt :=
            if takes.any fun take => take.1.inventoryId = row.inventoryId then now
            else row.updatedAt } := by
  refine walk_rows (fun qty taken row =>
      { row with
        quantityOnHand := row.quantityOnHand - qty
        updatedAt := if taken then now else row.updatedAt })
    (fun db take => ?_) (fun _ _ => rfl) (fun row => by simp) (fun qty more taken row => ?_) db takes
  · simp [subtractOnHand, addOnHand, Table.updateKey, Table.update, ← sub_eq_add_neg]
  · simp [sub_sub]

/-- A walk over stored rows of some places takes its total off them. -/
theorem onHandOver_subtractOnHand (now : ℕ) (places : Place → Bool) (db : Db)
    (takes : List (InventoryRow × ℤ))
    (hplaces : ∀ take ∈ takes,
      (db.inventory.find? take.1.inventoryId).any fun row => places row.place) :
    onHandOver places (run (subtractOnHand now) db takes) =
      onHandOver places db - (takes.map Prod.snd).sum := by
  induction takes generalizing db with
  | nil => simp [run]
  | cons take rest ih =>
      obtain ⟨row, hfind, hin⟩ := (Option.any_eq_true _ _).mp (hplaces take List.mem_cons_self)
      obtain ⟨hstored, hkey⟩ := Table.find?_eq_some_iff.mp hfind
      have hstep : onHandOver places (subtractOnHand now db take) =
          onHandOver places db - take.2 := by
        rw [subtractOnHand, ← hkey, onHandOver_addOnHand _ _ _ _ hstored, if_pos hin,
          ← sub_eq_add_neg]
      have hrest : ∀ later ∈ rest,
          ((subtractOnHand now db take).inventory.find? later.1.inventoryId).any
            fun row => places row.place := by
        intro later hlater
        have hbefore := hplaces later (List.mem_cons_of_mem _ hlater)
        simp only [subtractOnHand, addOnHand, Table.find?_updateKey]
        split
        · rw [Option.any_map]
          exact hbefore
        · exact hbefore
      rw [run, List.foldl_cons, ← run, ih _ hrest, hstep, List.map_cons, List.sum_cons, sub_sub]

section Walk

variable {db : Db} {receipt : ItemReceipt} {original : Option InventoryRow}

/-- What the walk takes off a stored row is nothing, or no more than the row has
unreserved. -/
theorem walked_le (hreturn : MayReturn db receipt original)
    (hrow : row ∈ db.inventory.rows) (qty : ℤ) :
    (∀ take ∈ draws InventoryRow.available qty (walkedRows db receipt original),
        take.1.inventoryId ≠ row.inventoryId) ∨
      takenAt InventoryRow.inventoryId row.inventoryId
        (draws InventoryRow.available qty (walkedRows db receipt original)) ≤
        row.available := by
  by_cases hvisited : ∃ take ∈ draws InventoryRow.available qty
      (walkedRows db receipt original), take.1.inventoryId = row.inventoryId
  · right
    obtain ⟨⟨visited, taken⟩, hvisit, hvisitkey⟩ := hvisited
    have hgives : 0 < row.available := by
      obtain ⟨hstored, -, -, hpositive⟩ := mem_walkedRows hreturn (draws_mem _ hvisit)
      rwa [List.inj_on_of_nodup_map db.inventory.keys_nodup hstored hrow hvisitkey] at hpositive
    cases takenAt_draws InventoryRow.available qty (walkedRows_keys hreturn)
      row.inventoryId with
    | inl hzero => exact hzero.le.trans hgives.le
    | inr hfound =>
        obtain ⟨found, hkey, htake⟩ := hfound
        have hsame : found = row :=
          List.inj_on_of_nodup_map db.inventory.keys_nodup
            (mem_walkedRows hreturn (draws_mem _ htake)).1 hrow hkey
        exact (draws_le _ htake).trans (congrArg _ hsame).le
  · left
    intro take htake hkey
    exact hvisited ⟨take, htake, hkey⟩

/-- A row after the walk is a stored row, or keeps its reservation covered. -/
theorem walked_covered (now : ℕ) (hreturn : MayReturn db receipt original) (qty : ℤ)
    (hrow : row ∈ (run (subtractOnHand now) db (draws InventoryRow.available qty
      (walkedRows db receipt original))).inventory.rows) :
    row ∈ db.inventory.rows ∨ row.quantityAllocated ≤ row.quantityOnHand := by
  rw [subtractOnHand_rows] at hrow
  obtain ⟨old, hold, rfl⟩ := List.mem_map.mp hrow
  cases walked_le hreturn hold qty with
  | inl hskipped =>
      left
      have hnotany : ((draws InventoryRow.available qty
          (walkedRows db receipt original)).any fun take =>
            take.1.inventoryId = old.inventoryId) = false := by
        simpa using hskipped
      rw [takenAt_eq_zero hskipped, hnotany, sub_zero]
      exact hold
  | inr hle =>
      right
      have havailable : old.available = old.quantityOnHand - old.quantityAllocated := rfl
      change old.quantityAllocated ≤ old.quantityOnHand - _
      linarith

/-- The walk lowers the item's stock in the warehouse by what it takes. -/
theorem walked_onHand (now : ℕ) (hreturn : MayReturn db receipt original) (qty : ℤ) :
    onHandOver (itemInWarehouse receipt.itemId receipt.warehouseId)
        (run (subtractOnHand now) db (draws InventoryRow.available qty
          (walkedRows db receipt original))) =
      onHandOver (itemInWarehouse receipt.itemId receipt.warehouseId) db -
        drawn InventoryRow.available qty (walkedRows db receipt original) := by
  apply onHandOver_subtractOnHand
  rintro ⟨visited, taken⟩ htake
  obtain ⟨hstored, hitem, hwarehouse, -⟩ := mem_walkedRows hreturn (draws_mem _ htake)
  rw [Table.find?_eq_some_iff.mpr ⟨hstored, rfl⟩]
  simp [itemInWarehouse, InventoryRow.place, hitem, hwarehouse]

/-- The walk finds the units when the check counts enough without what the walk
overlooks. -/
theorem walked_enough_iff (hreturn : MayReturn db receipt original) {qty : ℤ} (hqty : 0 ≤ qty) :
    qty ≤ drawn InventoryRow.available qty (walkedRows db receipt original) ↔
      qty ≤ warehouseAvailable db receipt.itemId receipt.warehouseId -
        overlooked db receipt original := by
  have hgives : ∀ row ∈ walkedRows db receipt original, 0 ≤ row.available :=
    fun row hrow => (mem_walkedRows hreturn hrow).2.2.2.le
  rw [drawn_eq_min _ hqty hgives, walkedRows_available hreturn, le_min_iff]
  simp

end Walk

/-! ## The outcome -/

theorem updatePoLine_inventory (poLineId : Option ℕ)
    (set : PurchaseOrderLine → PurchaseOrderLine) (db : Db)
    (hset : ∀ line, (set line).poLineId = line.poLineId) :
    (updatePoLine poLineId set db hset).inventory = db.inventory := by
  cases poLineId <;> rfl

theorem recomputePoStatus_inventory (poId : ℕ) (db : Db) :
    (recomputePoStatus poId db).1.inventory = db.inventory := rfl

section Outcome

variable {ctx : RequestContext} {db : Db} {receiptId : ℕ} {original : Option InventoryRow}

/-- A reversal that goes through has passed both checks, and the shelves are as the
walk leaves them. -/
theorem recordUnreceiveAt_ok {after : Db} {unreceived : Unreceived}
    (hok : recordUnreceiveAt ctx original db receiptId = .ok (after, unreceived)) :
    ∃ receipt, db.itemReceipts.find? receiptId = some receipt ∧
      receipt.quantityReceived ≤
        drawn InventoryRow.available receipt.quantityReceived (walkedRows db receipt original) ∧
      after.inventory = (run (subtractOnHand ctx.now) db
        (draws InventoryRow.available receipt.quantityReceived
          (walkedRows db receipt original))).inventory := by
  simp only [recordUnreceiveAt, recordUnreceiveOf, bind_eq_ok, orThrow_eq_ok, require_eq_ok,
    pure_eq_ok, Prod.mk.injEq] at hok
  obtain ⟨receipt, hstored, poId, -, -, -, -, henough, rfl, -⟩ := hok
  refine ⟨receipt, hstored, henough, ?_⟩
  rw [Stock.emitEvent_inventory, recomputePoStatus_inventory]
  exact updatePoLine_inventory _ _ _ _

/-- It goes through for the receipt of a purchase order when the check and the walk
find the units. -/
theorem recordUnreceiveAt_isOk_iff (hstored : db.itemReceipts.find? receiptId = some receipt)
    (hpurchase : receipt.poId ≠ none) (hcounted : receipt.quantityReceived ≤
      warehouseAvailable db receipt.itemId receipt.warehouseId) :
    (recordUnreceiveAt ctx original db receiptId).isOk ↔
      receipt.quantityReceived ≤
        drawn InventoryRow.available receipt.quantityReceived
          (walkedRows db receipt original) := by
  obtain ⟨poId, hpo⟩ := Option.ne_none_iff_exists'.mp hpurchase
  unfold recordUnreceiveAt recordUnreceiveOf
  rw [orThrow_bind hstored, orThrow_bind hpo, require_bind hcounted, drawn]
  dsimp only
  by_cases henough : receipt.quantityReceived ≤
      ((draws InventoryRow.available receipt.quantityReceived
        (walkedRows db receipt original)).map Prod.snd).sum
  · rw [require_bind henough]
    exact iff_of_true rfl henough
  · rw [require_bind_not henough]
    exact iff_of_false Bool.false_ne_true henough

/-- Reversing a receipt keeps its promise about stock exactly when the units that
count without the overlooked rows suffice wherever the units that count do. -/
theorem exactReversal_iff
    (hreturn : ∀ receipt, db.itemReceipts.find? receiptId = some receipt →
      MayReturn db receipt original)
    (hquantity : ∀ receipt, db.itemReceipts.find? receiptId = some receipt →
      0 ≤ receipt.quantityReceived) :
    ExactReversal ctx original db receiptId ↔
      ∀ receipt, db.itemReceipts.find? receiptId = some receipt → receipt.poId ≠ none →
        receipt.quantityReceived ≤ warehouseAvailable db receipt.itemId receipt.warehouseId →
        receipt.quantityReceived ≤
          warehouseAvailable db receipt.itemId receipt.warehouseId -
            overlooked db receipt original := by
  constructor
  · intro hexact receipt hstored hpurchase hcounted
    have hserved := hexact.served receipt hstored hpurchase hcounted
    rw [recordUnreceiveAt_isOk_iff hstored hpurchase hcounted] at hserved
    exact (walked_enough_iff (hreturn receipt hstored) (hquantity receipt hstored)).mp hserved
  · intro hcondition
    refine ⟨?_, ?_, ?_, ?_⟩
    · intro error herror
      rw [herror]
      rfl
    · intro after unreceived hok
      obtain ⟨receipt, hstored, henough, hinventory⟩ := recordUnreceiveAt_ok hok
      refine ⟨receipt, hstored, ?_⟩
      have hdrawn : drawn InventoryRow.available receipt.quantityReceived
          (walkedRows db receipt original) ≤ receipt.quantityReceived :=
        drawn_le _ (hquantity receipt hstored)
      have hwalk := walked_onHand ctx.now (hreturn receipt hstored) receipt.quantityReceived
      rw [← le_antisymm henough hdrawn] at hwalk
      unfold onHandOver at hwalk ⊢
      rw [hinventory, hwalk]
    · intro after unreceived hok row hrow
      obtain ⟨receipt, hstored, -, hinventory⟩ := recordUnreceiveAt_ok hok
      rw [hinventory] at hrow
      exact walked_covered ctx.now (hreturn receipt hstored) _ hrow
    · intro receipt hstored hpurchase hcounted
      rw [recordUnreceiveAt_isOk_iff hstored hpurchase hcounted,
        walked_enough_iff (hreturn receipt hstored) (hquantity receipt hstored)]
      exact hcondition receipt hstored hpurchase hcounted

end Outcome

/-! ## Small runs -/

namespace SmallReceiving

/-- A row of two or of five units in the staging bin, by lot. -/
def lot (inventoryId : ℕ) (quantity : ℤ) (lotNumber : String) : InventoryRow :=
  { inventoryId := inventoryId
    itemId := 1
    binId := 3
    warehouseId := 1
    quantityOnHand := quantity
    lotNumber := some lotNumber
    updatedAt := 0 }

/-- The small dock with five units received into a staging bin of two lots. -/
def twoLots : Db :=
  { db with
    inventory := (Table.empty.insert fun inventoryId => lot inventoryId 2 "A").insert
      fun inventoryId => lot inventoryId 5 "B"
    itemReceipts := Table.empty.insert fun receiptId =>
      { receiptId := receiptId
        poId := some 1
        poLineId := some 1
        itemId := 1
        quantityReceived := 5
        binId := 3
        warehouseId := 1
        externalId := SmallWarehouse.uuid 0 } }

theorem twoLots_mayReturn (hrow : row ∈ twoLots.inventory.rows) (receipt : ItemReceipt)
    (hstored : twoLots.itemReceipts.find? 1 = some receipt) :
    MayReturn twoLots receipt (some row) := by
  cases hstored
  refine ⟨hrow, ?_⟩
  revert row
  decide

theorem twoLots_quantity (receipt : ItemReceipt)
    (hstored : twoLots.itemReceipts.find? 1 = some receipt) :
    0 ≤ receipt.quantityReceived := by
  cases hstored
  decide

end SmallReceiving

/-- The reversal that finds the fuller lot takes its five units. -/
theorem exactReversal_fullerLot :
    ExactReversal (SmallWarehouse.pat 1) (some (SmallReceiving.lot 2 5 "B"))
      SmallReceiving.twoLots 1 := by
  apply (exactReversal_iff (SmallReceiving.twoLots_mayReturn (by decide))
    SmallReceiving.twoLots_quantity).mpr
  intro receipt hstored
  cases hstored
  decide

/-- The one that finds the other lot is refused, with seven units unreserved. -/
theorem not_exactReversal_otherLot :
    ¬ ∀ (ctx : RequestContext) (original : Option InventoryRow) (db : Db) (receiptId : ℕ),
      (∀ receipt, db.itemReceipts.find? receiptId = some receipt → MayReturn db receipt original) →
      (∀ receipt, db.itemReceipts.find? receiptId = some receipt → 0 ≤ receipt.quantityReceived) →
      ExactReversal ctx original db receiptId := by
  intro hall
  have hexact := hall (SmallWarehouse.pat 1) (some (SmallReceiving.lot 1 2 "A"))
    SmallReceiving.twoLots 1 (SmallReceiving.twoLots_mayReturn (by decide))
    SmallReceiving.twoLots_quantity
  have hserved := hexact.served _ rfl (by decide) (by decide)
  revert hserved
  decide

end SentryWms.Receiving

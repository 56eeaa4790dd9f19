import SentryWms.Receiving.Reversal
import SentryWms.Relational.Totals

/-!
# Receiving and cancelling at once

A request that receives items puts each entry into one lot of its bin; the session
cancel takes the receipts back from every lot there, down to zero.  Cancelled at once,
a request leaves no trace exactly where the lots of its bins are empty or are the ones
it was put into.
-/

namespace SentryWms.Receiving

open Relational Inventory

/-! ## What is to be restored -/

/-- Units on hand in the row with an identifier; a row that is not there has none. -/
def onHandIn (db : Db) (inventoryId : ℕ) : ℤ :=
  ((db.inventory.find? inventoryId).map InventoryRow.quantityOnHand).getD 0

/-- The request and its cancel have changed nothing. -/
structure Restored (db received cancelled : Db) (receiptIds : List ℕ) : Prop where
  stock : ∀ inventoryId, onHandIn cancelled inventoryId = onHandIn db inventoryId
  lines : ∀ poLineId, ((cancelled.purchaseOrderLines.find? poLineId).map fun line =>
      (line.quantityReceived, line.status)) =
    (db.purchaseOrderLines.find? poLineId).map fun line => (line.quantityReceived, line.status)
  receipts : cancelled.itemReceipts.rows =
    received.itemReceipts.select fun receipt => receipt.receiptId ∉ receiptIds
  earlier : cancelled.itemReceipts.rows = db.itemReceipts.rows

/-- The entry is put into the row. -/
def AddsTo (db : Db) (entry : ReceiveItemEntry) (row : InventoryRow) : Prop :=
  existingRow? db entry.itemId entry.binId entry.lotNumber = some row

/-- What the cancel takes from a row of an entry's bin is what the entry brought. -/
def RowReversible (db : Db) (warehouseId : ℕ) (items : List ReceiveItemEntry)
    (row : InventoryRow) : Prop :=
  ∀ entry ∈ items, entry.itemId = row.itemId → entry.binId = row.binId →
    if row.warehouseId = warehouseId then
      row.quantityOnHand = 0 ∨ (0 < row.quantityOnHand ∧ AddsTo db entry row)
    else ¬ AddsTo db entry row

/-- The line has the status its quantity gives it. -/
def LineReversible (line : PurchaseOrderLine) : Prop :=
  0 ≤ line.quantityReceived ∧ (deriveLineStatus line).status = line.status

/-- The request is one that a cancel undoes. -/
structure Reversible (db : Db) (warehouseId : ℕ) (request : ReceiveItemsRequest) : Prop where
  lines : ∀ entry ∈ request.items, ∀ line,
    poLine? db request.poId entry.itemId = some line → LineReversible line
  stock : ∀ row ∈ db.inventory.rows, RowReversible db warehouseId request.items row

variable {row : InventoryRow} {entry : ReceiveItemEntry} {k : ℕ} {received : Db}

/-! ## Into the lots -/

section Shelve

variable (ctx : RequestContext) (warehouseId : ℕ)

/-- The stock statement of one entry. -/
def shelve (db : Db) (entry : ReceiveItemEntry) : Db :=
  addInventory ctx.now entry.itemId entry.binId warehouseId entry.quantity entry.lotNumber db

/-- The row an entry is put into, if there is one. -/
def target? (db : Db) (entry : ReceiveItemEntry) : Option ℕ :=
  (existingRow? db entry.itemId entry.binId entry.lotNumber).map InventoryRow.inventoryId

/-- The entry goes to the item and bin of the place. -/
def goesTo (place : Place) (entry : ReceiveItemEntry) : Bool :=
  entry.itemId = place.itemId ∧ entry.binId = place.binId

variable {ctx warehouseId}

theorem addsTo_iff {db : Db} (hstored : row ∈ db.inventory.rows) :
    AddsTo db entry row ↔ target? db entry = some row.inventoryId := by
  rw [AddsTo, target?, Option.map_eq_some_iff]
  constructor
  · intro hrow
    exact ⟨row, hrow, rfl⟩
  · rintro ⟨other, hother, hsame⟩
    have hrows := List.inj_on_of_nodup_map db.inventory.keys_nodup
      (existingRow?_spec db hother).1 hstored hsame
    rw [hother, hrows]

theorem goesTo_of_target {db : Db} (hfound : db.inventory.find? k = some row)
    (htarget : target? db entry = some k) : goesTo row.place entry = true := by
  have hrow := Table.find?_eq_some_iff.mp hfound
  rw [← hrow.2, ← addsTo_iff hrow.1, AddsTo] at htarget
  have hspec := existingRow?_spec db htarget
  simp [goesTo, InventoryRow.place, hspec.2.1, hspec.2.2]

/-- The row with an entry's units added. -/
def raisedRow (now : ℕ) (quantity : ℤ) (row : InventoryRow) : InventoryRow :=
  { row with
    quantityOnHand := row.quantityOnHand + quantity
    updatedAt := now }

theorem raisedRow_key (now : ℕ) (quantity : ℤ) (row : InventoryRow) :
    (raisedRow now quantity row).inventoryId = row.inventoryId := rfl

theorem raisedRow_onHand (now : ℕ) (quantity : ℤ) (row : InventoryRow) :
    (raisedRow now quantity row).quantityOnHand = row.quantityOnHand + quantity := rfl

/-- The row made for an entry. -/
def shelvedRow (now warehouseId : ℕ) (entry : ReceiveItemEntry) (inventoryId : ℕ) :
    InventoryRow where
  inventoryId := inventoryId
  itemId := entry.itemId
  binId := entry.binId
  warehouseId := warehouseId
  quantityOnHand := entry.quantity
  lotNumber := entry.lotNumber
  updatedAt := now

theorem shelvedRow_key (now warehouseId : ℕ) (entry : ReceiveItemEntry) (inventoryId : ℕ) :
    (shelvedRow now warehouseId entry inventoryId).inventoryId = inventoryId := rfl

theorem shelvedRow_onHand (now warehouseId : ℕ) (entry : ReceiveItemEntry) (inventoryId : ℕ) :
    (shelvedRow now warehouseId entry inventoryId).quantityOnHand = entry.quantity := rfl

theorem shelve_existing {db : Db}
    (hrow : existingRow? db entry.itemId entry.binId entry.lotNumber = some row) :
    (shelve ctx warehouseId db entry).inventory =
      db.inventory.updateKey row.inventoryId (raisedRow ctx.now entry.quantity)
        (raisedRow_key ctx.now entry.quantity) := by
  rw [shelve, addInventory, hrow]
  rfl

theorem shelve_new {db : Db}
    (hnone : existingRow? db entry.itemId entry.binId entry.lotNumber = none) :
    (shelve ctx warehouseId db entry).inventory =
      db.inventory.insert (shelvedRow ctx.now warehouseId entry)
        (shelvedRow_key ctx.now warehouseId entry) := by
  rw [shelve, addInventory, hnone]
  rfl

/-- A row that was there has what the entries that are put into it bring. -/
theorem find?_shelve {db : Db} {k : ℕ} {row : InventoryRow}
    (hfound : db.inventory.find? k = some row) (entry : ReceiveItemEntry) :
    (shelve ctx warehouseId db entry).inventory.find? k =
      some (if target? db entry = some k then raisedRow ctx.now entry.quantity row
        else row) := by
  cases hrow : existingRow? db entry.itemId entry.binId entry.lotNumber with
  | some existing =>
      have htarget : target? db entry = some existing.inventoryId := by
        rw [target?, hrow, Option.map_some]
      rw [shelve_existing hrow, Table.find?_updateKey, htarget, hfound, Option.map_some]
      by_cases hk : k = existing.inventoryId
      · rw [if_pos hk, if_pos (congrArg some hk.symm)]
      · rw [if_neg hk, if_neg fun hsame => hk (Option.some.inj hsame).symm]
  | none =>
      have hne : k ≠ db.inventory.nextKey := by
        rintro rfl
        rw [Table.find?_nextKey] at hfound
        cases hfound
      rw [shelve_new hrow, Table.find?_insert, if_neg hne, hfound, target?, hrow]
      rfl

/-- A row that appears is the one made for the entry. -/
theorem find?_shelve_new {db : Db} {k : ℕ} {row : InventoryRow}
    (hnone : db.inventory.find? k = none) {entry : ReceiveItemEntry}
    (hfound : (shelve ctx warehouseId db entry).inventory.find? k = some row) :
    row = shelvedRow ctx.now warehouseId entry k := by
  cases hrow : existingRow? db entry.itemId entry.binId entry.lotNumber with
  | some existing =>
      rw [shelve_existing hrow, Table.find?_updateKey, hnone] at hfound
      simp at hfound
  | none =>
      rw [shelve_new hrow, Table.find?_insert, hnone] at hfound
      by_cases hk : k = db.inventory.nextKey
      · rw [if_pos hk] at hfound
        exact (Option.some.inj hfound).symm
      · rw [if_neg hk] at hfound
        cases hfound

/-- Putting an entry away changes the target of no other entry among the rows there
were. -/
theorem target?_shelve {db : Db} (hfound : db.inventory.find? k = some row)
    (entry later : ReceiveItemEntry) :
    target? (shelve ctx warehouseId db entry) later = some k ↔
      target? db later = some k := by
  rw [target?, target?, existingRow?, existingRow?]
  cases hrow : existingRow? db entry.itemId entry.binId entry.lotNumber with
  | some existing =>
      rw [shelve_existing hrow, Table.updateKey, Table.update, List.find?_map, Option.map_map]
      have htest : ((fun row : InventoryRow =>
          decide (row.itemId = later.itemId ∧ row.binId = later.binId ∧
            row.lotNumber = later.lotNumber)) ∘ fun row : InventoryRow =>
          if decide (row.inventoryId = existing.inventoryId) = true then
            raisedRow ctx.now entry.quantity row else row) =
          fun row => decide (row.itemId = later.itemId ∧ row.binId = later.binId ∧
            row.lotNumber = later.lotNumber) := by
        funext row
        by_cases hsame : row.inventoryId = existing.inventoryId <;>
          simp [hsame, raisedRow]
      have hkey : (InventoryRow.inventoryId ∘ fun row : InventoryRow =>
          if decide (row.inventoryId = existing.inventoryId) = true then
            raisedRow ctx.now entry.quantity row else row) =
          InventoryRow.inventoryId := by
        funext row
        by_cases hsame : row.inventoryId = existing.inventoryId <;>
          simp [hsame, raisedRow]
      rw [htest, hkey]
  | none =>
      have hne : k ≠ db.inventory.nextKey := by
        rintro rfl
        rw [Table.find?_nextKey] at hfound
        cases hfound
      rw [shelve_new hrow, Table.insert, List.find?_append]
      cases hearlier : db.inventory.rows.find? fun row =>
          row.itemId = later.itemId ∧ row.binId = later.binId ∧
            row.lotNumber = later.lotNumber with
      | some earlier => simp
      | none =>
          simp only [Option.none_or, Option.map_none, reduceCtorEq, iff_false]
          intro hnew
          obtain ⟨made, hmade, hkey⟩ := Option.map_eq_some_iff.mp hnew
          have hlast := List.mem_singleton.mp (List.mem_of_find?_eq_some hmade)
          rw [hlast] at hkey
          exact hne hkey.symm

/-! ### A whole request -/

variable (ctx warehouseId)

/-- The stock statements of a request. -/
def shelveAll (db : Db) (items : List ReceiveItemEntry) : Db :=
  run (shelve ctx warehouseId) db items

variable {ctx warehouseId}

/-- Units of the entries that go to the item and bin of a place. -/
def unitsAtPlace (place : Place) (items : List ReceiveItemEntry) : ℤ :=
  totalOver id ReceiveItemEntry.quantity (goesTo place) items

/-- Units of the entries that are put into a row. -/
def unitsInto (db : Db) (k : ℕ) (items : List ReceiveItemEntry) : ℤ :=
  totalOver id ReceiveItemEntry.quantity (fun entry => target? db entry = some k) items

theorem unitsAtPlace_cons (place : Place) (entry : ReceiveItemEntry)
    (rest : List ReceiveItemEntry) :
    unitsAtPlace place (entry :: rest) =
      (if goesTo place entry = true then entry.quantity else 0) +
        unitsAtPlace place rest := by
  rw [unitsAtPlace, totalOver_cons]
  rfl

theorem unitsInto_cons (db : Db) (k : ℕ) (entry : ReceiveItemEntry) (rest : List ReceiveItemEntry) :
    unitsInto db k (entry :: rest) =
      (if target? db entry = some k then entry.quantity else 0) +
        unitsInto db k rest := by
  rw [unitsInto, totalOver_cons]
  simp [unitsInto]

/-- Stored rows stay where they are and gain what is put into them. -/
theorem find?_shelveAll {db : Db} {k : ℕ} {row : InventoryRow}
    (hfound : db.inventory.find? k = some row) (items : List ReceiveItemEntry) :
    ∃ after, (shelveAll ctx warehouseId db items).inventory.find? k = some after ∧
      after.place = row.place ∧
      after.quantityOnHand = row.quantityOnHand + unitsInto db k items := by
  induction items generalizing db row with
  | nil => exact ⟨row, hfound, rfl, (add_zero _).symm⟩
  | cons entry rest ih =>
      have hstep := @find?_shelve ctx warehouseId db k row hfound entry
      obtain ⟨after, hafter, hplace, honHand⟩ := ih hstep
      refine ⟨after, hafter, hplace.trans ?_, honHand.trans ?_⟩
      · by_cases hinto : target? db entry = some k
        · rw [if_pos hinto]
          rfl
        · rw [if_neg hinto]
      · have hlater : unitsInto (shelve ctx warehouseId db entry) k rest =
            unitsInto db k rest := by
          unfold unitsInto totalOver
          congr 1
          apply List.map_congr_left
          intro later _
          simp only [id_eq, target?_shelve hfound]
        rw [hlater, unitsInto_cons]
        by_cases hinto : target? db entry = some k
        · rw [if_pos hinto, if_pos hinto, raisedRow_onHand]
          omega
        · rw [if_neg hinto, if_neg hinto]
          omega

theorem unitsInto_le {db : Db} (hfound : db.inventory.find? k = some row)
    (items : List ReceiveItemEntry) :
    unitsInto db k items ≤ unitsAtPlace row.place items := by
  induction items with
  | nil => exact le_refl _
  | cons entry rest ih =>
      have hpos := entry.quantity_pos
      rw [unitsInto_cons, unitsAtPlace_cons]
      by_cases hinto : target? db entry = some k
      · rw [if_pos hinto, if_pos (goesTo_of_target hfound hinto)]
        omega
      · rw [if_neg hinto]
        by_cases hgoes : goesTo row.place entry = true
        · rw [if_pos hgoes]
          omega
        · rw [if_neg hgoes]
          omega

/-- All that comes to a row's item and bin is put into it, if and only if each entry that
comes there is. -/
theorem unitsInto_eq_iff {db : Db} (hfound : db.inventory.find? k = some row)
    (items : List ReceiveItemEntry) :
    unitsInto db k items = unitsAtPlace row.place items ↔
      ∀ entry ∈ items, goesTo row.place entry = true → target? db entry = some k := by
  induction items with
  | nil => simp [unitsInto, unitsAtPlace]
  | cons entry rest ih =>
      have hrest := unitsInto_le hfound rest
      have hpos := entry.quantity_pos
      rw [List.forall_mem_cons, ← ih, unitsInto_cons, unitsAtPlace_cons]
      by_cases hinto : target? db entry = some k
      · rw [if_pos hinto, if_pos (goesTo_of_target hfound hinto),
          and_iff_right fun _ => hinto]
        omega
      · rw [if_neg hinto]
        by_cases hgoes : goesTo row.place entry = true
        · rw [if_pos hgoes]
          constructor
          · intro hsame
            omega
          · intro hboth
            exact absurd (hboth.1 hgoes) hinto
        · rw [if_neg hgoes, and_iff_right fun h => absurd h hgoes]
          omega

theorem unitsInto_eq_zero_iff {db : Db} (items : List ReceiveItemEntry) :
    unitsInto db k items = 0 ↔ ∀ entry ∈ items, target? db entry ≠ some k := by
  induction items with
  | nil => simp [unitsInto]
  | cons entry rest ih =>
      have hpos := entry.quantity_pos
      have hrest : 0 ≤ unitsInto db k rest :=
        totalOver_nonneg _ fun other _ => other.quantity_pos.le
      rw [List.forall_mem_cons, ← ih, unitsInto_cons]
      by_cases hinto : target? db entry = some k
      · rw [if_pos hinto]
        constructor
        · intro hzero
          omega
        · intro hboth
          exact absurd hinto hboth.1
      · rw [if_neg hinto, zero_add, and_iff_right hinto]

/-- A row that appears belongs to the warehouse of the order and holds no more than came
to its item and bin. -/
theorem find?_shelveAll_new {db : Db} {k : ℕ} {after : InventoryRow}
    {items : List ReceiveItemEntry} (hnone : db.inventory.find? k = none)
    (hfound : (shelveAll ctx warehouseId db items).inventory.find? k = some after) :
    after.warehouseId = warehouseId ∧ (∃ entry ∈ items, goesTo after.place entry = true) ∧
      after.quantityOnHand ≤ unitsAtPlace after.place items := by
  induction items generalizing db with
  | nil =>
      have hsame : db.inventory.find? k = some after := hfound
      rw [hnone] at hsame
      cases hsame
  | cons entry rest ih =>
      have hpos := entry.quantity_pos
      cases hstep : (shelve ctx warehouseId db entry).inventory.find? k with
      | none =>
          obtain ⟨hwarehouse, ⟨later, hlater, hgoes⟩, hle⟩ := ih hstep hfound
          refine ⟨hwarehouse, ⟨later, List.mem_cons_of_mem _ hlater, hgoes⟩, ?_⟩
          rw [unitsAtPlace_cons]
          by_cases hhere : goesTo after.place entry = true
          · rw [if_pos hhere]
            omega
          · rw [if_neg hhere]
            omega
      | some made =>
          obtain rfl := find?_shelve_new hnone hstep
          obtain ⟨stored, hstored, hplace, honHand⟩ :=
            @find?_shelveAll ctx warehouseId _ _ _ hstep rest
          have hsame := hfound.symm.trans hstored
          obtain rfl := Option.some.inj hsame
          have hgoes : goesTo after.place entry = true := by
            rw [hplace]
            simp [goesTo, InventoryRow.place, shelvedRow]
          refine ⟨congrArg Place.warehouseId hplace, ⟨entry, List.mem_cons_self, hgoes⟩, ?_⟩
          have hle := unitsInto_le hstep rest
          rw [← hplace] at hle
          rw [honHand, unitsAtPlace_cons, if_pos hgoes, shelvedRow_onHand]
          omega

end Shelve

/-! ## Back out of the lots -/

section TakeBack

/-- The receipt was booked at the place. -/
def bookedAt (place : Place) (receipt : ItemReceipt) : Bool :=
  place.itemId = receipt.itemId ∧ place.binId = receipt.binId ∧
    place.warehouseId = receipt.warehouseId

/-- What one row has after receipts are taken back. -/
def leftAfter (place : Place) : List ItemReceipt → ℤ → ℤ
  | [], quantity => quantity
  | receipt :: rest, quantity =>
      leftAfter place rest
        (if bookedAt place receipt = true then max 0 (quantity - receipt.quantityReceived)
        else quantity)

/-- The floor is reached once, at the end. -/
theorem leftAfter_eq {place : Place} {receipts : List ItemReceipt}
    (hpos : ∀ receipt ∈ receipts, 0 < receipt.quantityReceived) (quantity : ℤ) :
    leftAfter place receipts quantity =
      if ∃ receipt ∈ receipts, bookedAt place receipt = true then
        max 0 (quantity - totalOver id ItemReceipt.quantityReceived (bookedAt place) receipts)
      else quantity := by
  induction receipts generalizing quantity with
  | nil => simp [leftAfter]
  | cons receipt rest ih =>
      have hrest : ∀ other ∈ rest, 0 < other.quantityReceived := fun other hother =>
        hpos other (List.mem_cons_of_mem _ hother)
      have htotal : 0 ≤ totalOver id ItemReceipt.quantityReceived (bookedAt place) rest :=
        totalOver_nonneg _ fun other hother => (hrest other hother).le
      rw [leftAfter, ih hrest]
      simp only [totalOver_cons, id_eq, List.exists_mem_cons_iff]
      by_cases hhere : bookedAt place receipt = true
      · simp only [hhere, true_or, if_true]
        by_cases hlater : ∃ other ∈ rest, bookedAt place other = true
        · rw [if_pos hlater]
          omega
        · have hnone : totalOver id ItemReceipt.quantityReceived (bookedAt place) rest = 0 :=
            totalOver_eq_zero _ fun other hother => by
              simpa using fun h => hlater ⟨other, hother, h⟩
          rw [if_neg hlater, hnone, add_zero]
      · simp only [if_neg hhere, zero_add, or_iff_right hhere]

/-- The reversals one after another. -/
def reverseAll (db : Db) (receipts : List ItemReceipt) : Db :=
  run (fun db receipt => reverseReceipt receipt db) db receipts

theorem reverseReceipt_inventory (receipt : ItemReceipt) (db : Db) :
    (reverseReceipt receipt db).inventory = (takeBack receipt db).inventory := by
  unfold reverseReceipt deleteReceipt updatePoLine
  cases receipt.poLineId <;> rfl

theorem find?_takeBack (receipt : ItemReceipt) (db : Db) (k : ℕ) :
    ((takeBack receipt db).inventory.find? k).map
        (fun row => (row.place, row.quantityOnHand)) =
      (db.inventory.find? k).map fun row =>
        (row.place, leftAfter row.place [receipt] row.quantityOnHand) := by
  rw [takeBack, Table.find?_update, Option.map_map]
  congr 1
  funext row
  have hplace : decide (row.itemId = receipt.itemId ∧ row.binId = receipt.binId ∧
      row.warehouseId = receipt.warehouseId) = bookedAt row.place receipt := rfl
  rw [Function.comp_apply, leftAfter, leftAfter, hplace]
  by_cases hhere : bookedAt row.place receipt = true
  · rw [if_pos hhere, if_pos hhere]
    rfl
  · rw [if_neg hhere, if_neg hhere]

theorem find?_reverseAll (receipts : List ItemReceipt) (db : Db) (k : ℕ) :
    ((reverseAll db receipts).inventory.find? k).map
        (fun row => (row.place, row.quantityOnHand)) =
      (db.inventory.find? k).map fun row =>
        (row.place, leftAfter row.place receipts row.quantityOnHand) := by
  induction receipts generalizing db with
  | nil => rfl
  | cons receipt rest ih =>
      have hrest := ih (reverseReceipt receipt db)
      have hstep := find?_takeBack receipt db k
      rw [← reverseReceipt_inventory] at hstep
      change ((reverseAll (reverseReceipt receipt db) rest).inventory.find? k).map _ = _
      rw [hrest]
      cases hbefore : db.inventory.find? k with
      | none =>
          rw [hbefore] at hstep
          rw [Option.map_eq_none_iff.mp hstep]
          rfl
      | some row =>
          rw [hbefore, Option.map_some] at hstep
          obtain ⟨taken, htaken, hview⟩ := Option.map_eq_some_iff.mp hstep
          obtain ⟨hplace, honHand⟩ := Prod.mk.inj hview
          rw [htaken, Option.map_some, Option.map_some, hplace, honHand]
          rfl

end TakeBack

/-! ## The lines -/

section Lines

/-- The line a receipt of the item is booked on. -/
def lineKey? (db : Db) (poId itemId : ℕ) : Option ℕ :=
  (poLine? db poId itemId).map PurchaseOrderLine.poLineId

/-- The quantities of the entries a line takes. -/
def quantitiesFor (db : Db) (poId poLineId : ℕ) (items : List ReceiveItemEntry) : List ℤ :=
  (items.filter fun entry => lineKey? db poId entry.itemId = some poLineId).map
    ReceiveItemEntry.quantity

def receiveAll (quantities : List ℤ) (line : PurchaseOrderLine) : PurchaseOrderLine :=
  run (fun line quantity => receiveQuantity quantity line) line quantities

def reverseQuantities (quantities : List ℤ) (line : PurchaseOrderLine) : PurchaseOrderLine :=
  run (fun line quantity => reverseQuantity quantity line) line quantities

/-- The line with another quantity, and the status it gives. -/
def derivedLine (quantity : ℤ) (line : PurchaseOrderLine) : PurchaseOrderLine :=
  deriveLineStatus { line with quantityReceived := quantity }

theorem receiveAll_quantity (quantities : List ℤ) (line : PurchaseOrderLine) :
    (receiveAll quantities line).quantityReceived =
      line.quantityReceived + quantities.sum := by
  induction quantities generalizing line with
  | nil => exact (add_zero _).symm
  | cons quantity rest ih =>
      have hrest := ih (receiveQuantity quantity line)
      have hstep : (receiveQuantity quantity line).quantityReceived =
          line.quantityReceived + quantity := rfl
      rw [hstep] at hrest
      rw [List.sum_cons, ← add_assoc]
      exact hrest

/-- Receiving changes the quantity and the status only. -/
theorem derivedLine_receiveAll (quantities : List ℤ) (quantity : ℤ) (line : PurchaseOrderLine) :
    derivedLine quantity (receiveAll quantities line) = derivedLine quantity line := by
  induction quantities generalizing line with
  | nil => rfl
  | cons first rest ih => exact ih (receiveQuantity first line)

theorem reverseQuantities_eq {quantities : List ℤ} (hne : quantities ≠ [])
    (hpos : ∀ quantity ∈ quantities, 0 < quantity) (line : PurchaseOrderLine) :
    reverseQuantities quantities line =
      derivedLine (max 0 (line.quantityReceived - quantities.sum)) line := by
  induction quantities generalizing line with
  | nil => exact absurd rfl hne
  | cons quantity rest ih =>
      have hrest : ∀ other ∈ rest, 0 < other := fun other hother =>
        hpos other (List.mem_cons_of_mem _ hother)
      change reverseQuantities rest (reverseQuantity quantity line) = _
      cases rest with
      | nil =>
          rw [List.sum_singleton]
          rfl
      | cons second later =>
          have hsum : 0 ≤ (second :: later).sum :=
            List.sum_nonneg fun other hother => (hrest other hother).le
          have hfloor : max 0 (max 0 (line.quantityReceived - quantity) - (second :: later).sum) =
              max 0 (line.quantityReceived - (quantity :: second :: later).sum) := by
            have htotal : (quantity :: second :: later).sum =
                quantity + (second :: later).sum := List.sum_cons
            rw [htotal]
            omega
          rw [ih (List.cons_ne_nil _ _) hrest, ← hfloor]
          rfl

/-- A line that takes any of the entries ends with its quantity, floored at zero, and the
status that quantity gives. -/
theorem reverse_receiveAll {quantities : List ℤ} (hne : quantities ≠ [])
    (hpos : ∀ quantity ∈ quantities, 0 < quantity) (line : PurchaseOrderLine) :
    reverseQuantities quantities (receiveAll quantities line) =
      derivedLine (max 0 line.quantityReceived) line := by
  rw [reverseQuantities_eq hne hpos, receiveAll_quantity, derivedLine_receiveAll,
    add_sub_cancel_right]

theorem find?_updatePoLine (poLineId : Option ℕ)
    (set : PurchaseOrderLine → PurchaseOrderLine) (db : Db)
    (hset : ∀ line, (set line).poLineId = line.poLineId) (k : ℕ) :
    (updatePoLine poLineId set db hset).purchaseOrderLines.find? k =
      (db.purchaseOrderLines.find? k).map fun line =>
        if poLineId = some k then set line else line := by
  cases poLineId with
  | none => simp [updatePoLine]
  | some named =>
      rw [updatePoLine, Table.find?_updateKey]
      by_cases hk : k = named
      · simp [hk]
      · have hne : ¬ named = k := fun hsame => hk hsame.symm
        simp [hk, hne]

theorem lineKey?_updatePoLine (poLineId : Option ℕ) (quantity : ℤ) (db : Db) (poId itemId : ℕ) :
    lineKey? (updatePoLine poLineId (receiveQuantity quantity) db) poId itemId =
      lineKey? db poId itemId := by
  cases poLineId with
  | none => rfl
  | some named =>
      rw [lineKey?, lineKey?, poLine?, poLine?, updatePoLine, Table.updateKey, Table.update,
        List.find?_map, Option.map_map]
      have htest : ((fun line : PurchaseOrderLine =>
          decide (line.poId = poId ∧ line.itemId = itemId)) ∘
          fun line : PurchaseOrderLine =>
            if decide (line.poLineId = named) = true then receiveQuantity quantity line
            else line) =
          fun line => decide (line.poId = poId ∧ line.itemId = itemId) := by
        funext line
        by_cases hsame : line.poLineId = named <;> simp [hsame, receiveQuantity]
      have hkey : (PurchaseOrderLine.poLineId ∘ fun line : PurchaseOrderLine =>
          if decide (line.poLineId = named) = true then receiveQuantity quantity line
          else line) = PurchaseOrderLine.poLineId := by
        funext line
        by_cases hsame : line.poLineId = named <;> simp [hsame, receiveQuantity]
      rw [htest, hkey]

end Lines

/-! ## What a request does -/

section Request

variable {ctx : RequestContext} {poId warehouseId : ℕ}

/-- The receipt of an entry. -/
def receiptOf (db : Db) (poId warehouseId : ℕ) (numbered : ReceiveItemEntry × ℕ) :
    ItemReceipt where
  receiptId := numbered.2
  poId := some poId
  poLineId := lineKey? db poId numbered.1.itemId
  itemId := numbered.1.itemId
  quantityReceived := numbered.1.quantity
  binId := numbered.1.binId
  warehouseId := warehouseId
  externalId := numbered.1.externalId

/-- The receipts of a request. -/
def receiptsOf (db : Db) (poId warehouseId : ℕ) (items : List ReceiveItemEntry) :
    List ItemReceipt :=
  (items.zipIdx db.itemReceipts.nextKey).map (receiptOf db poId warehouseId)

/-- The entries are put away, counted on their lines and booked. -/
structure Receives (ctx : RequestContext) (poId warehouseId : ℕ) (db after : Db)
    (items : List ReceiveItemEntry) : Prop where
  inventory : after.inventory = (shelveAll ctx warehouseId db items).inventory
  lines : ∀ k, after.purchaseOrderLines.find? k =
    (db.purchaseOrderLines.find? k).map (receiveAll (quantitiesFor db poId k items))
  receipts : after.itemReceipts.rows = db.itemReceipts.rows ++ receiptsOf db poId warehouseId items

theorem shelve_congr {before after : Db} (hsame : after.inventory = before.inventory)
    (entry : ReceiveItemEntry) :
    (shelve ctx warehouseId after entry).inventory =
      (shelve ctx warehouseId before entry).inventory := by
  have hrow : existingRow? after entry.itemId entry.binId entry.lotNumber =
      existingRow? before entry.itemId entry.binId entry.lotNumber := by
    rw [existingRow?, existingRow?, hsame]
  cases hexisting : existingRow? before entry.itemId entry.binId entry.lotNumber with
  | some row => rw [shelve_existing hexisting, shelve_existing (hrow.trans hexisting), hsame]
  | none => rw [shelve_new hexisting, shelve_new (hrow.trans hexisting), hsame]

theorem shelveAll_congr {before after : Db} (hsame : after.inventory = before.inventory)
    (items : List ReceiveItemEntry) :
    (shelveAll ctx warehouseId after items).inventory =
      (shelveAll ctx warehouseId before items).inventory := by
  induction items generalizing before after with
  | nil => exact hsame
  | cons entry rest ih => exact ih (shelve_congr hsame entry)

theorem entryUnits_key (entry : ReceiveItemEntry) (line : PurchaseOrderLine) :
    (receiveQuantity entry.quantity line).poLineId = line.poLineId :=
  rfl

/-- What one turn of the loop does. -/
theorem receiveEntry_spec {db after : Db} {receiptId : ℕ} {warning : Option String}
    (hok : receiveEntry ctx poId warehouseId db entry = .ok (after, receiptId, warning)) :
    receiptId = db.itemReceipts.nextKey ∧
      after.inventory = (shelve ctx warehouseId db entry).inventory ∧
      after.purchaseOrderLines =
        (updatePoLine (lineKey? db poId entry.itemId) (receiveQuantity entry.quantity)
          db (entryUnits_key entry)).purchaseOrderLines ∧
      after.itemReceipts.rows = db.itemReceipts.rows ++
        [receiptOf db poId warehouseId (entry, db.itemReceipts.nextKey)] ∧
      after.itemReceipts.nextKey = db.itemReceipts.nextKey + 1 := by
  simp only [receiveEntry, bind_eq_ok, orThrow_eq_ok, require_eq_ok, pure_eq_ok,
    Prod.mk.injEq, insertReceipt] at hok
  obtain ⟨_, -, _, -, line, hline, _, -, booked, ⟨_, -, hbooked⟩, hafter, rfl, -⟩ := hok
  have hkey : lineKey? db poId entry.itemId = some line.poLineId := by
    rw [lineKey?, hline, Option.map_some]
  have hstocked := (sameBooks_emitEvent ctx .receiptCompleted db.itemReceipts.nextKey
      warehouseId _).trans (sameBooks_releaseBackorders ctx warehouseId entry.itemId
        (emitEvent ctx .receiptCompleted db.itemReceipts.nextKey warehouseId
          (addInventory ctx.now entry.itemId entry.binId warehouseId entry.quantity entry.lotNumber
            (updatePoLine (some line.poLineId) (receiveQuantity entry.quantity) booked))))
  have hbooks := (sameBooks_addInventory ctx.now entry.itemId entry.binId warehouseId
    entry.quantity entry.lotNumber
    (updatePoLine (some line.poLineId) (receiveQuantity entry.quantity) booked)).trans hstocked
  rw [hafter] at hbooks
  refine ⟨rfl, ?_, ?_, ?_, ?_⟩
  · rw [← hafter, Stock.releaseBackorders_inventory, Stock.emitEvent_inventory]
    apply shelve_congr
    subst hbooked
    rfl
  · rw [hbooks.purchaseOrderLines, hkey, ← hbooked]
    rfl
  · rw [hbooks.itemReceipts, ← hbooked]
    simp only [updatePoLine, Table.insert, receiptOf, hkey]
  · rw [hbooks.itemReceipts, ← hbooked]
    rfl

theorem lineKey?_receiveEntry {db after : Db} {quantity : ℤ} {poLineId : Option ℕ}
    (hlines : after.purchaseOrderLines =
      (updatePoLine poLineId (receiveQuantity quantity) db).purchaseOrderLines)
    (itemId : ℕ) : lineKey? after poId itemId = lineKey? db poId itemId := by
  rw [← lineKey?_updatePoLine poLineId quantity db, lineKey?, lineKey?, poLine?, poLine?, hlines]

theorem receiveEntries_spec {db after : Db} {items : List ReceiveItemEntry}
    {receipts : List (ℕ × Option String)}
    (hok : receiveEntries ctx poId warehouseId items db = .ok (after, receipts)) :
    Receives ctx poId warehouseId db after items ∧
      receipts.map Prod.fst =
        (receiptsOf db poId warehouseId items).map ItemReceipt.receiptId := by
  induction items generalizing db receipts with
  | nil =>
      simp only [receiveEntries, pure_eq_ok, Prod.mk.injEq] at hok
      obtain ⟨rfl, rfl⟩ := hok
      refine ⟨⟨rfl, fun k => ?_, (List.append_nil _).symm⟩, rfl⟩
      exact Option.map_id'.symm
  | cons entry rest ih =>
      simp only [receiveEntries, bind_eq_ok, pure_eq_ok, Prod.exists, Prod.mk.injEq] at hok
      obtain ⟨received, receiptId, warning, hentry, _, later, hrest, rfl, rfl⟩ := hok
      obtain ⟨hid, hinventory, hlines, hrows, hnext⟩ := receiveEntry_spec hentry
      obtain ⟨hreceives, hids⟩ := ih hrest
      have hkeys : ∀ itemId, lineKey? received poId itemId = lineKey? db poId itemId :=
        lineKey?_receiveEntry hlines
      have hlater : receiptsOf received poId warehouseId rest =
          (rest.zipIdx (db.itemReceipts.nextKey + 1)).map (receiptOf db poId warehouseId) := by
        rw [receiptsOf, hnext]
        apply List.map_congr_left
        intro numbered _
        simp only [receiptOf, hkeys]
      refine ⟨⟨?_, fun k => ?_, ?_⟩, ?_⟩
      · rw [hreceives.inventory]
        exact shelveAll_congr hinventory rest
      · have hquantities : quantitiesFor received poId k rest =
            quantitiesFor db poId k rest := by
          simp only [quantitiesFor, hkeys]
        rw [hreceives.lines, hquantities, hlines, find?_updatePoLine, Option.map_map]
        congr 1
        funext line
        by_cases hnamed : lineKey? db poId entry.itemId = some k
        · simp only [Function.comp_apply, if_pos hnamed, quantitiesFor,
            List.filter_cons_of_pos (p := fun entry : ReceiveItemEntry =>
              decide (lineKey? db poId entry.itemId = some k)) (decide_eq_true hnamed)]
          rfl
        · simp only [Function.comp_apply, if_neg hnamed, quantitiesFor,
            List.filter_cons_of_neg (p := fun entry : ReceiveItemEntry =>
              decide (lineKey? db poId entry.itemId = some k))
              (by simpa using hnamed)]
      · rw [hreceives.receipts, hrows, hlater, List.append_assoc]
        rfl
      · rw [List.map_cons, hids, hlater, hid]
        rfl

end Request

/-! ## What its cancel does -/

section Cancel

variable {ctx : RequestContext}

theorem reverseReceipt_receipts (receipt : ItemReceipt) (db : Db) :
    (reverseReceipt receipt db).itemReceipts =
      db.itemReceipts.delete fun row => row.receiptId = receipt.receiptId := by
  unfold reverseReceipt deleteReceipt updatePoLine
  cases receipt.poLineId <;> rfl

/-- Receipts that are stored and seen are reversed, each once. -/
theorem reverseReceipts_stored {db : Db} {receipts : List ItemReceipt}
    (hstored : ∀ receipt ∈ receipts, receipt ∈ db.itemReceipts.rows)
    (hseen : ∀ receipt ∈ receipts, inScope ctx receipt.warehouseId = true)
    (hnodup : (receipts.map ItemReceipt.receiptId).Nodup) :
    reverseReceipts ctx (receipts.map ItemReceipt.receiptId) db =
      (reverseAll db receipts, receipts) := by
  induction receipts generalizing db with
  | nil => rfl
  | cons receipt rest ih =>
      rw [List.map_cons, List.nodup_cons] at hnodup
      have hfind : db.itemReceipts.find? receipt.receiptId = some receipt :=
        Table.find?_eq_some_iff.mpr ⟨hstored receipt List.mem_cons_self, rfl⟩
      have hvisible : visibleReceipt? ctx db receipt.receiptId = some receipt := by
        rw [visibleReceipt?, hfind, Option.filter_some, if_pos (hseen receipt List.mem_cons_self)]
      have hkept : ∀ other ∈ rest,
          other ∈ (reverseReceipt receipt db).itemReceipts.rows := by
        intro other hother
        have hne : other.receiptId ≠ receipt.receiptId := fun hsame =>
          hnodup.1 (hsame ▸ List.mem_map_of_mem hother)
        rw [reverseReceipt_receipts]
        exact List.mem_filter.mpr
          ⟨hstored other (List.mem_cons_of_mem _ hother), by simpa using hne⟩
      have hrest := ih hkept
        (fun other hother => hseen other (List.mem_cons_of_mem _ hother)) hnodup.2
      simp only [List.map_cons, reverseReceipts, hvisible, hrest]
      rfl

theorem reverseAll_receipts (db : Db) (receipts : List ItemReceipt) :
    (reverseAll db receipts).itemReceipts.rows =
      db.itemReceipts.select fun row =>
        row.receiptId ∉ receipts.map ItemReceipt.receiptId := by
  induction receipts generalizing db with
  | nil => simp [reverseAll, run, Table.select]
  | cons receipt rest ih =>
      change (reverseAll (reverseReceipt receipt db) rest).itemReceipts.rows = _
      rw [ih, reverseReceipt_receipts, Table.select, Table.select, Table.delete, List.filter_filter]
      apply List.filter_congr
      intro row _
      simp only [List.map_cons, List.mem_cons, not_or]
      by_cases hhead : row.receiptId = receipt.receiptId <;> simp [hhead]

theorem reverseReceipt_lines (receipt : ItemReceipt) (db : Db) (k : ℕ) :
    (reverseReceipt receipt db).purchaseOrderLines.find? k =
      (db.purchaseOrderLines.find? k).map fun line =>
        if receipt.poLineId = some k then reverseQuantity receipt.quantityReceived line
        else line :=
  find?_updatePoLine receipt.poLineId (reverseQuantity receipt.quantityReceived)
    (takeBack receipt db) (fun _ => rfl) k

theorem reverseAll_lines (db : Db) (receipts : List ItemReceipt) (k : ℕ) :
    (reverseAll db receipts).purchaseOrderLines.find? k =
      (db.purchaseOrderLines.find? k).map
        (reverseQuantities ((receipts.filter fun receipt =>
          receipt.poLineId = some k).map ItemReceipt.quantityReceived)) := by
  induction receipts generalizing db with
  | nil => exact Option.map_id'.symm
  | cons receipt rest ih =>
      change (reverseAll (reverseReceipt receipt db) rest).purchaseOrderLines.find? k = _
      rw [ih, reverseReceipt_lines, Option.map_map]
      congr 1
      funext line
      by_cases hnamed : receipt.poLineId = some k
      · simp only [Function.comp_apply, if_pos hnamed, List.filter_cons,
          decide_eq_true hnamed, if_true, List.map_cons]
        rfl
      · simp only [Function.comp_apply, if_neg hnamed, List.filter_cons,
          decide_eq_false hnamed, Bool.false_eq_true, if_false]

end Cancel

/-! ## There and back -/

section RoundTrip

variable {ctx : RequestContext} {poId warehouseId : ℕ} {db : Db} {items : List ReceiveItemEntry}

theorem bookedAt_receiptOf (place : Place) (numbered : ReceiveItemEntry × ℕ) :
    bookedAt place (receiptOf db poId warehouseId numbered) = true ↔
      place.warehouseId = warehouseId ∧ goesTo place numbered.1 = true := by
  simp only [bookedAt, receiptOf, goesTo, decide_eq_true_eq, eq_comm (a := place.itemId),
    eq_comm (a := place.binId)]
  tauto

theorem exists_bookedAt_iff (place : Place) :
    (∃ receipt ∈ receiptsOf db poId warehouseId items, bookedAt place receipt = true) ↔
      place.warehouseId = warehouseId ∧ ∃ entry ∈ items, goesTo place entry = true := by
  constructor
  · rintro ⟨receipt, hreceipt, hbooked⟩
    obtain ⟨numbered, hnumbered, rfl⟩ := List.mem_map.mp hreceipt
    have hboth := (bookedAt_receiptOf place numbered).mp hbooked
    exact ⟨hboth.1, numbered.1, List.fst_mem_of_mem_zipIdx hnumbered, hboth.2⟩
  · rintro ⟨hwarehouse, entry, hentry, hgoes⟩
    rw [← List.zipIdx_map_fst db.itemReceipts.nextKey items] at hentry
    obtain ⟨numbered, hnumbered, rfl⟩ := List.mem_map.mp hentry
    exact ⟨_, List.mem_map_of_mem hnumbered,
      (bookedAt_receiptOf place numbered).mpr ⟨hwarehouse, hgoes⟩⟩

theorem total_bookedAt {place : Place} (hwarehouse : place.warehouseId = warehouseId) :
    totalOver id ItemReceipt.quantityReceived (bookedAt place)
        (receiptsOf db poId warehouseId items) =
      unitsAtPlace place items := by
  rw [unitsAtPlace, totalOver, totalOver, receiptsOf, List.map_map]
  have hentries : items.map (fun entry : ReceiveItemEntry =>
      if goesTo place (id entry) = true then entry.quantity else 0) =
      (items.zipIdx db.itemReceipts.nextKey).map fun numbered =>
        if goesTo place numbered.1 = true then numbered.1.quantity else 0 := by
    conv_lhs => rw [← List.zipIdx_map_fst db.itemReceipts.nextKey items, List.map_map]
    rfl
  rw [hentries]
  congr 1
  apply List.map_congr_left
  intro numbered _
  have hbooked := @bookedAt_receiptOf poId warehouseId db place numbered
  rw [and_iff_right hwarehouse] at hbooked
  simp only [Function.comp_apply, id_eq, hbooked]
  rfl

theorem receiptsOf_pos : ∀ receipt ∈ receiptsOf db poId warehouseId items,
    0 < receipt.quantityReceived := by
  intro receipt hreceipt
  obtain ⟨numbered, -, rfl⟩ := List.mem_map.mp hreceipt
  exact numbered.1.quantity_pos

/-- What a place has after the receipts of a request are taken back. -/
theorem leftAfter_receiptsOf (place : Place) (quantity : ℤ) :
    leftAfter place (receiptsOf db poId warehouseId items) quantity =
      if place.warehouseId = warehouseId ∧ ∃ entry ∈ items, goesTo place entry = true then
        max 0 (quantity - unitsAtPlace place items)
      else quantity := by
  rw [leftAfter_eq receiptsOf_pos]
  by_cases hhere : place.warehouseId = warehouseId ∧ ∃ entry ∈ items, goesTo place entry = true
  · rw [if_pos hhere, if_pos ((exists_bookedAt_iff place).mpr hhere), total_bookedAt hhere.1]
  · rw [if_neg hhere, if_neg fun hbooked => hhere ((exists_bookedAt_iff place).mp hbooked)]

/-- A stored row ends with what it had, exactly when the cancel takes from it what the
request brought. -/
theorem row_restored_iff (hfound : db.inventory.find? k = some row) :
    leftAfter row.place (receiptsOf db poId warehouseId items)
        (row.quantityOnHand + unitsInto db k items) = row.quantityOnHand ↔
      RowReversible db warehouseId items row := by
  obtain ⟨hstored, hkey⟩ := Table.find?_eq_some_iff.mp hfound
  have hadds : ∀ entry, AddsTo db entry row ↔ target? db entry = some k := fun entry => by
    rw [addsTo_iff hstored, hkey]
  have hgoes : ∀ entry, goesTo row.place entry = true ↔
      entry.itemId = row.itemId ∧ entry.binId = row.binId := fun entry =>
    decide_eq_true_iff
  have hle := unitsInto_le hfound items
  have hinto : 0 ≤ unitsInto db k items :=
    totalOver_nonneg _ fun entry _ => entry.quantity_pos.le
  have hplace : row.place.warehouseId = row.warehouseId := rfl
  rw [leftAfter_receiptsOf, hplace, RowReversible]
  by_cases hwarehouse : row.warehouseId = warehouseId
  · simp only [hwarehouse, if_true, true_and]
    by_cases htouched : ∃ entry ∈ items, goesTo row.place entry = true
    · rw [if_pos htouched]
      have harithmetic : max 0 (row.quantityOnHand + unitsInto db k items -
            unitsAtPlace row.place items) = row.quantityOnHand ↔
          row.quantityOnHand = 0 ∨ (0 < row.quantityOnHand ∧
            unitsInto db k items = unitsAtPlace row.place items) := by
        omega
      rw [harithmetic, unitsInto_eq_iff hfound]
      constructor
      · rintro (hempty | ⟨hpos, hall⟩) entry hentry hitem hbin
        · exact Or.inl hempty
        · exact Or.inr ⟨hpos, (hadds entry).mpr
            (hall entry hentry ((hgoes entry).mpr ⟨hitem, hbin⟩))⟩
      · intro hall
        obtain ⟨entry, hentry, hthere⟩ := htouched
        have hfirst := (hgoes entry).mp hthere
        rcases hall entry hentry hfirst.1 hfirst.2 with hempty | ⟨hpos, -⟩
        · exact Or.inl hempty
        · refine Or.inr ⟨hpos, fun other hother hgoesThere => ?_⟩
          have hplaces := (hgoes other).mp hgoesThere
          rcases hall other hother hplaces.1 hplaces.2 with hempty | ⟨-, hadded⟩
          · omega
          · exact (hadds other).mp hadded
    · rw [if_neg htouched]
      have hnone : unitsInto db k items = 0 :=
        (unitsInto_eq_zero_iff items).mpr fun entry hentry htarget =>
          htouched ⟨entry, hentry, goesTo_of_target hfound htarget⟩
      apply iff_of_true (by omega)
      intro entry hentry hitem hbin
      exact absurd ⟨entry, hentry, (hgoes entry).mpr ⟨hitem, hbin⟩⟩ htouched
  · have hnot : ¬ (row.warehouseId = warehouseId ∧
        ∃ entry ∈ items, goesTo row.place entry = true) := fun h => hwarehouse h.1
    simp only [if_neg hnot, if_neg hwarehouse]
    have harithmetic : row.quantityOnHand + unitsInto db k items = row.quantityOnHand ↔
        unitsInto db k items = 0 := by
      omega
    rw [harithmetic, unitsInto_eq_zero_iff]
    constructor
    · intro hall entry hentry _ _
      rw [hadds]
      exact hall entry hentry
    · intro hall entry hentry htarget
      have hthere := (hgoes entry).mp (goesTo_of_target hfound htarget)
      exact hall entry hentry hthere.1 hthere.2 ((hadds entry).mpr htarget)

/-- A line ends with the quantity and the status it had, exactly when it takes nothing or
its status is the one its quantity gives. -/
theorem line_restored_iff {line : PurchaseOrderLine} :
    let after := reverseQuantities (quantitiesFor db poId k items)
      (receiveAll (quantitiesFor db poId k items) line)
    (after.quantityReceived = line.quantityReceived ∧ after.status = line.status) ↔
      (quantitiesFor db poId k items ≠ [] → LineReversible line) := by
  intro after
  by_cases hnone : quantitiesFor db poId k items = []
  · have hsame : after = line := by
      simp only [after, hnone]
      rfl
    rw [hsame]
    exact iff_of_true ⟨rfl, rfl⟩ fun h => absurd hnone h
  · have hpos : ∀ quantity ∈ quantitiesFor db poId k items, 0 < quantity := by
      intro quantity hquantity
      obtain ⟨entry, -, rfl⟩ := List.mem_map.mp hquantity
      exact entry.quantity_pos
    have hafter : after = derivedLine (max 0 line.quantityReceived) line :=
      reverse_receiveAll hnone hpos line
    rw [hafter]
    constructor
    · rintro ⟨hquantity, hstatus⟩ -
      have hfloor : max 0 line.quantityReceived = line.quantityReceived := hquantity
      rw [hfloor] at hstatus
      exact ⟨by omega, hstatus⟩
    · intro hreversible
      obtain ⟨hquantity, hderived⟩ := hreversible hnone
      have hfloor : max 0 line.quantityReceived = line.quantityReceived := by omega
      rw [hfloor]
      exact ⟨rfl, hderived⟩

/-! ### Accepted requests -/

theorem refreshPoStatus_inventory (db : Db) (poId : Option ℕ) :
    (refreshPoStatus db poId).inventory = db.inventory := by
  rw [refreshPoStatus]
  cases poId <;> rfl

/-- The cancel of what a request has booked. -/
theorem cancelReceiving_received {db : Db} {reply : List ℕ}
    (hreceives : Receives ctx poId warehouseId db received items)
    (hreply : reply = (receiptsOf db poId warehouseId items).map ItemReceipt.receiptId)
    (hitems : items ≠ []) (hscope : inScope ctx warehouseId = true) :
    ∃ cancelled reversed, cancelReceiving ctx received ⟨poId, reply⟩ = .ok (cancelled, reversed) ∧
      cancelled.inventory = (reverseAll received (receiptsOf db poId warehouseId items)).inventory ∧
      cancelled.purchaseOrderLines =
        (reverseAll received (receiptsOf db poId warehouseId items)).purchaseOrderLines ∧
      cancelled.itemReceipts =
        (reverseAll received (receiptsOf db poId warehouseId items)).itemReceipts := by
  have hids : (receiptsOf db poId warehouseId items).map ItemReceipt.receiptId =
      List.range' db.itemReceipts.nextKey items.length := by
    rw [receiptsOf, List.map_map, ← List.zipIdx_map_snd]
    rfl
  have hnames : reply ≠ [] := by
    rw [hreply, hids]
    simpa using hitems
  have hstored : ∀ receipt ∈ receiptsOf db poId warehouseId items,
      receipt ∈ received.itemReceipts.rows := fun receipt hreceipt => by
    rw [hreceives.receipts]
    exact List.mem_append_right _ hreceipt
  have hseen : ∀ receipt ∈ receiptsOf db poId warehouseId items,
      inScope ctx receipt.warehouseId = true := fun receipt hreceipt => by
    obtain ⟨numbered, -, rfl⟩ := List.mem_map.mp hreceipt
    exact hscope
  have hnodup : ((receiptsOf db poId warehouseId items).map ItemReceipt.receiptId).Nodup := by
    rw [hids]
    exact List.nodup_range'
  have hmatched : mismatched ctx received ⟨poId, reply⟩ = [] := by
    rw [mismatched, Table.select, List.filter_eq_nil_iff]
    intro receipt hreceipt
    rw [hreceives.receipts] at hreceipt
    simp only [decide_eq_true_eq, not_and]
    intro hnamed _
    cases List.mem_append.mp hreceipt with
    | inl hearlier =>
        have hlt := db.itemReceipts.keys_lt receipt hearlier
        rw [hreply, hids, List.mem_range'_1] at hnamed
        omega
    | inr hbooked =>
        obtain ⟨numbered, -, rfl⟩ := List.mem_map.mp hbooked
        simp [receiptOf]
  have hreversed := reverseReceipts_stored hstored hseen hnodup
  rw [cancelReceiving, if_neg hnames, require_bind hmatched]
  simp only [hreply, hreversed]
  refine ⟨_, _, rfl, ?_, ?_, ?_⟩
  · exact run_unchanged Db.inventory refreshPoStatus_inventory _ _
  · exact (sameBooks_run (fun db poId => sameBooks_setPoStatus poId _ db) _ _).purchaseOrderLines
  · exact (sameBooks_run (fun db poId => sameBooks_setPoStatus poId _ db) _ _).itemReceipts

/-- The stock is as before exactly when every stored row is reversible. -/
theorem stock_restored_iff {cancelled : Db}
    (hreceived : received.inventory = (shelveAll ctx warehouseId db items).inventory)
    (hcancelled : cancelled.inventory =
      (reverseAll received (receiptsOf db poId warehouseId items)).inventory) :
    (∀ k, onHandIn cancelled k = onHandIn db k) ↔
      ∀ row ∈ db.inventory.rows, RowReversible db warehouseId items row := by
  have hview : ∀ k, (cancelled.inventory.find? k).map
      (fun row => (row.place, row.quantityOnHand)) =
      ((shelveAll ctx warehouseId db items).inventory.find? k).map fun row =>
        (row.place, leftAfter row.place (receiptsOf db poId warehouseId items)
          row.quantityOnHand) := by
    intro k
    rw [hcancelled, find?_reverseAll, hreceived]
  have hstored : ∀ k row, db.inventory.find? k = some row →
      onHandIn cancelled k = leftAfter row.place (receiptsOf db poId warehouseId items)
        (row.quantityOnHand + unitsInto db k items) := by
    intro k row hfound
    obtain ⟨after, hafter, hplace, honHand⟩ := @find?_shelveAll ctx warehouseId _ _ _ hfound items
    have hrow := hview k
    rw [hafter, Option.map_some] at hrow
    obtain ⟨kept, hkept, hsame⟩ := Option.map_eq_some_iff.mp hrow
    rw [onHandIn, hkept, Option.map_some, Option.getD_some, ← hplace, ← honHand]
    exact congrArg Prod.snd hsame
  have habsent : ∀ k, db.inventory.find? k = none → onHandIn cancelled k = 0 := by
    intro k hnone
    have hrow := hview k
    cases hafter : (shelveAll ctx warehouseId db items).inventory.find? k with
    | none =>
        rw [hafter] at hrow
        rw [onHandIn, Option.map_eq_none_iff.mp hrow]
        rfl
    | some after =>
        obtain ⟨hwarehouse, htouched, hle⟩ := find?_shelveAll_new hnone hafter
        rw [hafter, Option.map_some, leftAfter_receiptsOf, if_pos ⟨hwarehouse, htouched⟩] at hrow
        obtain ⟨kept, hkept, hsame⟩ := Option.map_eq_some_iff.mp hrow
        rw [onHandIn, hkept, Option.map_some, Option.getD_some]
        have hleft : kept.quantityOnHand =
            max 0 (after.quantityOnHand - unitsAtPlace after.place items) :=
          congrArg Prod.snd hsame
        omega
  constructor
  · intro hrestored row hrow
    have hfound := Table.find?_eq_some_iff.mpr ⟨hrow, rfl⟩
    have hsame := hrestored row.inventoryId
    rw [hstored _ row hfound, onHandIn, hfound, Option.map_some, Option.getD_some] at hsame
    exact (row_restored_iff hfound).mp hsame
  · intro hreversible k
    cases hfound : db.inventory.find? k with
    | none => rw [habsent k hfound, onHandIn, hfound, Option.map_none, Option.getD_none]
    | some row =>
        rw [hstored k row hfound, onHandIn, hfound, Option.map_some, Option.getD_some]
        exact (row_restored_iff hfound).mpr (hreversible row (Table.find?_eq_some_iff.mp hfound).1)

theorem quantities_receiptsOf (k : ℕ) :
    ((receiptsOf db poId warehouseId items).filter fun receipt =>
        receipt.poLineId = some k).map ItemReceipt.quantityReceived =
      quantitiesFor db poId k items := by
  rw [quantitiesFor, receiptsOf, List.filter_map, List.map_map]
  conv_rhs => rw [← List.zipIdx_map_fst db.itemReceipts.nextKey items, List.filter_map,
    List.map_map]
  rfl

/-- The lines are as before exactly when those the request took are reversible. -/
theorem lines_restored_iff {cancelled : Db}
    (hreceived : ∀ k, received.purchaseOrderLines.find? k =
      (db.purchaseOrderLines.find? k).map (receiveAll (quantitiesFor db poId k items)))
    (hcancelled : cancelled.purchaseOrderLines =
      (reverseAll received (receiptsOf db poId warehouseId items)).purchaseOrderLines) :
    (∀ k, ((cancelled.purchaseOrderLines.find? k).map fun line =>
        (line.quantityReceived, line.status)) =
      (db.purchaseOrderLines.find? k).map fun line => (line.quantityReceived, line.status)) ↔
      ∀ entry ∈ items, ∀ line, poLine? db poId entry.itemId = some line →
        LineReversible line := by
  have hafter : ∀ k, cancelled.purchaseOrderLines.find? k =
      (db.purchaseOrderLines.find? k).map fun line =>
        reverseQuantities (quantitiesFor db poId k items)
          (receiveAll (quantitiesFor db poId k items) line) := by
    intro k
    rw [hcancelled, reverseAll_lines, quantities_receiptsOf, hreceived, Option.map_map]
    rfl
  constructor
  · intro hrestored entry hentry line hline
    have hstored := List.mem_of_find?_eq_some hline
    have hfound := Table.find?_eq_some_iff.mpr ⟨hstored, rfl⟩
    have hsame := hrestored line.poLineId
    rw [hafter, hfound, Option.map_some, Option.map_some, Option.map_some, Option.some.injEq,
      Prod.mk.injEq] at hsame
    apply line_restored_iff.mp hsame
    have hkey : lineKey? db poId entry.itemId = some line.poLineId := by
      rw [lineKey?, hline, Option.map_some]
    exact List.ne_nil_of_mem
      (List.mem_map_of_mem (List.mem_filter.mpr ⟨hentry, decide_eq_true hkey⟩))
  · intro hreversible k
    rw [hafter]
    cases hfound : db.purchaseOrderLines.find? k with
    | none => rfl
    | some line =>
        rw [Option.map_some, Option.map_some, Option.map_some, Option.some.injEq, Prod.mk.injEq]
        apply line_restored_iff.mpr
        intro htaken
        obtain ⟨quantity, hquantity⟩ := List.exists_mem_of_ne_nil _ htaken
        obtain ⟨entry, hentry, -⟩ := List.mem_map.mp hquantity
        obtain ⟨hentry, hkey⟩ := List.mem_filter.mp hentry
        obtain ⟨other, hother, hsame⟩ := Option.map_eq_some_iff.mp (of_decide_eq_true hkey)
        have hlines := Table.find?_eq_some_iff.mpr ⟨List.mem_of_find?_eq_some hother, hsame⟩
        rw [hfound] at hlines
        exact hreversible entry hentry line (hother.trans hlines.symm)

/-- The booked receipts are the ones that go. -/
theorem receipts_kept (hreceived : received.itemReceipts.rows =
      db.itemReceipts.rows ++ receiptsOf db poId warehouseId items) :
    (received.itemReceipts.select fun receipt => receipt.receiptId ∉
        (receiptsOf db poId warehouseId items).map ItemReceipt.receiptId) =
      db.itemReceipts.rows := by
  have hids : (receiptsOf db poId warehouseId items).map ItemReceipt.receiptId =
      List.range' db.itemReceipts.nextKey items.length := by
    rw [receiptsOf, List.map_map, ← List.zipIdx_map_snd]
    rfl
  rw [Table.select, hreceived, List.filter_append]
  have hearlier : db.itemReceipts.rows.filter (fun receipt =>
      decide (receipt.receiptId ∉
        (receiptsOf db poId warehouseId items).map ItemReceipt.receiptId)) =
      db.itemReceipts.rows := by
    rw [List.filter_eq_self]
    intro receipt hreceipt
    have hlt := db.itemReceipts.keys_lt receipt hreceipt
    rw [decide_eq_true_eq, hids, List.mem_range'_1]
    omega
  have hbooked : (receiptsOf db poId warehouseId items).filter (fun receipt =>
      decide (receipt.receiptId ∉
        (receiptsOf db poId warehouseId items).map ItemReceipt.receiptId)) = [] := by
    rw [List.filter_eq_nil_iff]
    intro receipt hreceipt
    rw [decide_eq_true_eq, not_not]
    exact List.mem_map_of_mem hreceipt
  rw [hearlier, hbooked, List.append_nil]

end RoundTrip

/-- Receiving and cancelling at once changes nothing, exactly for the requests that the
lots and the lines allow. -/
theorem cancel_restores_iff {ctx : RequestContext} {db received : Db}
    {request : ReceiveItemsRequest} {reply : ReceivedItems}
    (haccepted : receiveItems ctx db request = .ok (received, reply)) :
    ∃ order, db.purchaseOrders.find? request.poId = some order ∧
      ∃ cancelled reversed,
        cancelReceiving ctx received ⟨request.poId, reply.receiptIds⟩ = .ok (cancelled, reversed) ∧
        (Restored db received cancelled reply.receiptIds ↔
          Reversible db order.warehouseId request) := by
  simp only [receiveItems, bind_eq_ok, orThrow_eq_ok, Option.filter_eq_some_iff, pure_eq_ok,
    Prod.exists, Prod.mk.injEq] at haccepted
  obtain ⟨order, ⟨horder, hscope⟩, _, -, booked, receipts, hentries, hreceived, hreply⟩ := haccepted
  obtain ⟨hbooked, hids⟩ := receiveEntries_spec hentries
  have hreceives : Receives ctx request.poId order.warehouseId db received request.items := by
    rw [← hreceived]
    exact ⟨hbooked.inventory, hbooked.lines, hbooked.receipts⟩
  have hreceiptIds : reply.receiptIds =
      (receiptsOf db request.poId order.warehouseId request.items).map
        ItemReceipt.receiptId := by
    rw [← hreply]
    exact hids
  obtain ⟨cancelled, reversed, hcancelled, hinventory, hlines, hreceipts⟩ :=
    cancelReceiving_received hreceives hreceiptIds request.items_ne_nil hscope
  refine ⟨order, horder, cancelled, reversed, hcancelled, ?_⟩
  -- the receipts always go
  have hdeleted : cancelled.itemReceipts.rows =
      received.itemReceipts.select fun receipt => receipt.receiptId ∉ reply.receiptIds := by
    rw [hreceipts, reverseAll_receipts, hreceiptIds]
  have hearlier : cancelled.itemReceipts.rows = db.itemReceipts.rows := by
    rw [hdeleted, hreceiptIds, receipts_kept hreceives.receipts]
  have hstock := stock_restored_iff hreceives.inventory hinventory
  have hkeptLines := lines_restored_iff hreceives.lines hlines
  constructor
  · intro hrestored
    exact ⟨hkeptLines.mp hrestored.lines, hstock.mp hrestored.stock⟩
  · intro hreversible
    exact ⟨hstock.mpr hreversible.stock, hkeptLines.mpr hreversible.lines, hdeleted, hearlier⟩

/-! ## Two lots in one bin -/

namespace SmallReceiving

/-- Ten units of each of two lots in the staging bin. -/
def fullLots : Db :=
  { db with
    inventory := (Table.empty.insert fun inventoryId => lot inventoryId 10 "A").insert
      fun inventoryId => lot inventoryId 10 "B" }

/-- Five units into a lot of the staging bin. -/
def intoLot (lotNumber : String) : ReceiveItemsRequest where
  poId := 1
  items := [⟨1, 5, 3, some lotNumber, SmallWarehouse.uuid 0, by decide, by decide⟩]
  items_ne_nil := List.cons_ne_nil _ _

/-- The dock once the units are in. -/
def booked (db : Db) (lotNumber : String) : Db :=
  committed db (receiveItems (SmallWarehouse.pat 1) db (intoLot lotNumber))

/-- And once they are taken back. -/
def cancelled (db : Db) (lotNumber : String) : Db :=
  committed (booked db lotNumber)
    (cancelReceiving (SmallWarehouse.pat 2) (booked db lotNumber) ⟨1, [1]⟩)

end SmallReceiving

theorem cancel_restores_iff_emptyBin :
    ∃ order, SmallReceiving.db.purchaseOrders.find? 1 = some order ∧
      ∃ cancelled reversed,
        cancelReceiving (SmallWarehouse.pat 1) (SmallReceiving.booked SmallReceiving.db "A")
            ⟨1, [1]⟩ = .ok (cancelled, reversed) ∧
        (Restored SmallReceiving.db (SmallReceiving.booked SmallReceiving.db "A") cancelled [1] ↔
          Reversible SmallReceiving.db order.warehouseId (SmallReceiving.intoLot "A")) := by
  have haccepted : receiveItems (SmallWarehouse.pat 1) SmallReceiving.db
      (SmallReceiving.intoLot "A") =
        .ok (SmallReceiving.booked SmallReceiving.db "A", ⟨[1], .poReceived, []⟩) := rfl
  exact cancel_restores_iff haccepted

/-- Five units put into one lot are taken out of both. -/
theorem cancel_drains_otherLot :
    receiveItems (SmallWarehouse.pat 1) SmallReceiving.fullLots (SmallReceiving.intoLot "A") =
      .ok (SmallReceiving.booked SmallReceiving.fullLots "A", ⟨[1], .poReceived, []⟩) ∧
    cancelReceiving (SmallWarehouse.pat 1)
        (SmallReceiving.booked SmallReceiving.fullLots "A") ⟨1, [1]⟩ =
      .ok (SmallReceiving.cancelled SmallReceiving.fullLots "A", 1) ∧
    onHandIn SmallReceiving.fullLots 2 = 10 ∧
    onHandIn (SmallReceiving.cancelled SmallReceiving.fullLots "A") 2 = 5 :=
  ⟨rfl, rfl, by decide, by decide⟩

end SentryWms.Receiving

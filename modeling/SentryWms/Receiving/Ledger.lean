import SentryWms.Relational.Postings
import SentryWms.SalesOrders.Returns
import SentryWms.System

/-!
# The receipt ledger

Purchase-order lines and return lines keep a counter of what they received, and
the receipts are the postings behind it.  Receiving books a receipt and the two
reversals strike one, each with the counter of its line.  The session cancel also
strikes a return receipt, whose line it does not find: runs keep the ledger when no
cancel does that.
-/

namespace SentryWms.Receiving

open Relational Inventory SalesOrders

/-! ## Requests -/

inductive ReceivingRequest
  | receiveItems (request : ReceiveItemsRequest)
  | cancelReceiving (request : CancelReceivingRequest)
  | recordUnreceive (receiptId : ℕ)
  | createRma (request : CreateRmaRequest)
  | receiveRma (request : ReceiveRmaRequest)

/-- A request with the operator and clock it is served under. -/
structure ReceivingCall where
  ctx : RequestContext
  request : ReceivingRequest

/-- The state after a request. -/
def serveReceiving (db : Db) (call : ReceivingCall) : Db :=
  match call.request with
  | .receiveItems request => committed db (receiveItems call.ctx db request)
  | .cancelReceiving request => committed db (cancelReceiving call.ctx db request)
  | .recordUnreceive receiptId =>
      committed db (recordUnreceive call.ctx db receiptId)
  | .createRma request =>
      committed db (createRma call.ctx.now db request.soId request.lines)
  | .receiveRma request => committed db (receiveRma call.ctx db request)

/-! ## The ledger -/

/-- Receipts of purchase-order lines. -/
def purchaseReceipts : PostingScheme PurchaseOrderLine ItemReceipt where
  counter := PurchaseOrderLine.quantityReceived
  account? := ItemReceipt.poLineId
  amount := ItemReceipt.quantityReceived

/-- Receipts of return lines. -/
def returnReceipts : PostingScheme SalesOrderLine ItemReceipt where
  counter := SalesOrderLine.quantityReceived
  account? := ItemReceipt.soLineId
  amount := ItemReceipt.quantityReceived

/-- Every line's `quantity_received` is the sum over the receipts that reference
it.  Lines of other sales orders have no receipts and stay at zero. -/
structure ReceiptLedger (db : Db) : Prop where
  purchases : purchaseReceipts.Balanced db.purchaseOrderLines db.itemReceipts
  returns : returnReceipts.Balanced db.salesOrderLines db.itemReceipts

instance (db : Db) : Decidable (ReceiptLedger db) :=
  decidable_of_iff
    (purchaseReceipts.Balanced db.purchaseOrderLines db.itemReceipts ∧
      returnReceipts.Balanced db.salesOrderLines db.itemReceipts)
    ⟨fun h => ⟨h.1, h.2⟩, fun h => ⟨h.purchases, h.returns⟩⟩

/-- What the writers of `item_receipts` keep: a receipt of a purchase order is
positive and names no return line, and a return line that is named exists. -/
structure ReceiptsFormed (db : Db) : Prop where
  purchase : ∀ receipt ∈ db.itemReceipts.rows, receipt.poId.isSome → receipt.soLineId = none
  positive : ∀ receipt ∈ db.itemReceipts.rows, receipt.poLineId.isSome →
    0 < receipt.quantityReceived
  stored : ∀ receipt ∈ db.itemReceipts.rows, ∀ soLineId,
    receipt.soLineId = some soLineId → soLineId < db.salesOrderLines.nextKey

structure Booked (db : Db) : Prop where
  ledger : ReceiptLedger db
  formed : ReceiptsFormed db

/-! ## Statements that book nothing -/

/-- The tables of the ledger are as before. -/
structure SameBooks (before after : Db) : Prop where
  purchaseOrderLines : after.purchaseOrderLines = before.purchaseOrderLines
  salesOrderLines : after.salesOrderLines = before.salesOrderLines
  itemReceipts : after.itemReceipts = before.itemReceipts

theorem SameBooks.refl (db : Db) : SameBooks db db := ⟨rfl, rfl, rfl⟩

variable {before : Db} {poId warehouseId : ℕ} {line : SalesOrderLine}
  {request : ReceiveRmaRequest} {result : ReceivedReturn}

theorem SameBooks.trans {middle after : Db} (hfirst : SameBooks before middle)
    (hsecond : SameBooks middle after) : SameBooks before after :=
  ⟨hsecond.purchaseOrderLines.trans hfirst.purchaseOrderLines,
    hsecond.salesOrderLines.trans hfirst.salesOrderLines,
    hsecond.itemReceipts.trans hfirst.itemReceipts⟩

theorem sameBooks_run {Input : Type*} {step : Db → Input → Db}
    (hstep : ∀ db input, SameBooks db (step db input)) (db : Db)
    (inputs : List Input) : SameBooks db (run step db inputs) := by
  induction inputs generalizing db with
  | nil => exact SameBooks.refl db
  | cons input rest ih => exact (hstep db input).trans (ih _)

theorem sameBooks_emitEvent (ctx : RequestContext) (eventType : EventType)
    (aggregateId warehouseId : ℕ) (db : Db) :
    SameBooks db (emitEvent ctx eventType aggregateId warehouseId db) := by
  unfold emitEvent
  split <;> exact ⟨rfl, rfl, rfl⟩

theorem sameBooks_addInventory (now itemId binId warehouseId : ℕ) (quantity : ℤ)
    (lotNumber : Option String) (db : Db) :
    SameBooks db
      (addInventory now itemId binId warehouseId quantity lotNumber db) := by
  unfold addInventory
  split <;> exact ⟨rfl, rfl, rfl⟩

theorem sameBooks_setPoStatus (poId : Option ℕ) (status : PurchaseOrderStatus)
    (db : Db) : SameBooks db (setPoStatus poId status db) := by
  cases poId with
  | none => exact SameBooks.refl db
  | some k => exact ⟨rfl, rfl, rfl⟩

theorem sameBooks_setOrderStatus (soId : ℕ) (status : SalesOrderStatus) (db : Db) :
    SameBooks db (setOrderStatus soId status db) :=
  ⟨rfl, rfl, rfl⟩

theorem sameBooks_releaseBackorders (ctx : RequestContext) (warehouseId itemId : ℕ) (db : Db) :
    SameBooks db (releaseSatisfiableBackorders ctx warehouseId itemId db) := by
  apply sameBooks_run
  intro state order
  unfold releaseBackorder
  split
  · exact (sameBooks_setOrderStatus ..).trans (sameBooks_emitEvent ..)
  · exact SameBooks.refl state

theorem Booked.same {after : Db} (hbooked : Booked before)
    (hsame : SameBooks before after) : Booked after := by
  obtain ⟨hpurchase, hsales, hreceipts⟩ := hsame
  refine ⟨⟨?_, ?_⟩, ⟨?_, ?_, ?_⟩⟩
  · rw [hpurchase, hreceipts]
    exact hbooked.ledger.purchases
  · rw [hsales, hreceipts]
    exact hbooked.ledger.returns
  · rw [hreceipts]
    exact hbooked.formed.purchase
  · rw [hreceipts]
    exact hbooked.formed.positive
  · rw [hreceipts, hsales]
    exact hbooked.formed.stored

/-! ## Booking a receipt -/

variable {receipt : ItemReceipt} {ctx : RequestContext} {db' : Db} {receiptId : ℕ}

/-- A receipt of a purchase-order line, with the line's counter raised. -/
theorem Booked.receivePurchase {db booked : Db} (hbooked : Booked db)
    (hinserted : insertReceipt receipt db = .ok booked) {poLineId : ℕ}
    (hline : receipt.poLineId = some poLineId) (hreturn : receipt.soLineId = none)
    (hpositive : 0 < receipt.quantityReceived) :
    Booked (updatePoLine (some poLineId)
      (receiveQuantity receipt.quantityReceived) booked) := by
  simp only [insertReceipt, bind_eq_ok, require_eq_ok, pure_eq_ok] at hinserted
  obtain ⟨-, -, rfl⟩ := hinserted
  refine ⟨⟨?_, ?_⟩, ⟨?_, ?_, ?_⟩⟩
  · exact hbooked.ledger.purchases.book
      (fun receiptId => { receipt with receiptId := receiptId }) (fun _ => rfl) hline
      (receiveQuantity receipt.quantityReceived) (fun _ => rfl) fun _ _ _ => rfl
  · exact hbooked.ledger.returns.bookElsewhere _ _ hreturn
  · intro stored hstored hpo
    rcases List.mem_append.mp hstored with hold | hnew
    · exact hbooked.formed.purchase stored hold hpo
    · rw [List.mem_singleton.mp hnew]
      exact hreturn
  · intro stored hstored hpo
    rcases List.mem_append.mp hstored with hold | hnew
    · exact hbooked.formed.positive stored hold hpo
    · rw [List.mem_singleton.mp hnew]
      exact hpositive
  · intro stored hstored soLineId hnamed
    rcases List.mem_append.mp hstored with hold | hnew
    · exact hbooked.formed.stored stored hold soLineId hnamed
    · rw [List.mem_singleton.mp hnew] at hnamed
      exact absurd (hreturn.symm.trans hnamed) (by simp)

theorem Booked.receiveEntry {db : Db} {entry : ReceiveItemEntry}
    {outcome : ℕ × Option String} (hbooked : Booked db)
    (hok : Receiving.receiveEntry ctx poId warehouseId db entry =
      .ok (db', outcome)) : Booked db' := by
  simp only [Receiving.receiveEntry, bind_eq_ok, require_eq_ok, orThrow_eq_ok,
    pure_eq_ok, Prod.mk.injEq] at hok
  obtain ⟨bin, -, -, -, line, -, -, -, booked, hinserted, rfl, -⟩ := hok
  have hreceived := hbooked.receivePurchase hinserted rfl rfl entry.quantity_pos
  exact hreceived.same ((sameBooks_addInventory ..).trans
    ((sameBooks_emitEvent ..).trans (sameBooks_releaseBackorders ..)))

theorem Booked.receiveEntries {entries : List ReceiveItemEntry} {db : Db}
    {receipts : List (ℕ × Option String)} (hbooked : Booked db)
    (hok : Receiving.receiveEntries ctx poId warehouseId entries db =
      .ok (db', receipts)) : Booked db' := by
  induction entries generalizing db receipts with
  | nil =>
      simp only [Receiving.receiveEntries, pure_eq_ok, Prod.mk.injEq] at hok
      exact hok.1 ▸ hbooked
  | cons entry rest ih =>
      simp only [Receiving.receiveEntries, bind_eq_ok, pure_eq_ok, Prod.mk.injEq] at hok
      obtain ⟨⟨received, receipt⟩, hentry, ⟨finished, later⟩, hrest, rfl, -⟩ := hok
      exact ih (hbooked.receiveEntry hentry) hrest

theorem Booked.receiveItems {db : Db} {request : ReceiveItemsRequest}
    {result : ReceivedItems} (hbooked : Booked db)
    (hok : Receiving.receiveItems ctx db request = .ok (db', result)) : Booked db' := by
  simp only [Receiving.receiveItems, bind_eq_ok, require_eq_ok, orThrow_eq_ok,
    pure_eq_ok, Prod.mk.injEq] at hok
  obtain ⟨order, -, -, -, ⟨received, receipts⟩, hentries, rfl, -⟩ := hok
  exact (hbooked.receiveEntries hentries).same (sameBooks_setPoStatus ..)

/-! ## Striking a receipt -/

/-- Deleting a receipt that is no return receipt, with its line's counter lowered.
The floor at zero never binds: the counter is a sum with the receipt in it. -/
theorem Booked.strike {db : Db} (hbooked : Booked db)
    (hstored : receipt ∈ db.itemReceipts.rows) (hreturn : receipt.soLineId = none)
    (set : PurchaseOrderLine → PurchaseOrderLine)
    (hset : ∀ line, (set line).poLineId = line.poLineId)
    (hcounter : ∀ line, (set line).quantityReceived =
      max 0 (line.quantityReceived - receipt.quantityReceived)) :
    Booked (deleteReceipt receipt.receiptId
      (updatePoLine receipt.poLineId set db hset)) := by
  have hformed : ReceiptsFormed (deleteReceipt receipt.receiptId
      (updatePoLine receipt.poLineId set db hset)) := by
    cases receipt.poLineId <;>
    exact ⟨fun row hrow => hbooked.formed.purchase row (List.mem_of_mem_filter hrow),
      fun row hrow => hbooked.formed.positive row (List.mem_of_mem_filter hrow),
      fun row hrow => hbooked.formed.stored row (List.mem_of_mem_filter hrow)⟩
  have hreturns : returnReceipts.Balanced db.salesOrderLines
      (db.itemReceipts.delete fun row => row.receiptId = receipt.receiptId) :=
    hbooked.ledger.returns.strikeElsewhere hstored hreturn
  cases hline : receipt.poLineId with
  | none =>
      rw [hline] at hformed
      exact ⟨⟨hbooked.ledger.purchases.strikeElsewhere hstored hline, hreturns⟩, hformed⟩
  | some poLineId =>
      rw [hline] at hformed
      refine ⟨⟨hbooked.ledger.purchases.strike hstored hline set hset ?_, hreturns⟩, hformed⟩
      intro line hlineStored hkey
      have hle : receipt.quantityReceived ≤ line.quantityReceived := by
        calc
          receipt.quantityReceived ≤
              purchaseReceipts.postedTo db.itemReceipts poLineId :=
            PostingScheme.amount_le_postedTo hstored hline fun row hrow hnamed =>
              (hbooked.formed.positive row hrow (Option.isSome_iff_exists.mpr ⟨_, hnamed⟩)).le
          _ = line.quantityReceived := hkey ▸ (hbooked.ledger.purchases line hlineStored).symm
      exact (hcounter line).trans (max_eq_right (Int.sub_nonneg.mpr hle))

theorem Booked.reverseReceipt {db : Db} (hbooked : Booked db)
    (hstored : receipt ∈ db.itemReceipts.rows) (hreturn : receipt.soLineId = none) :
    Booked (Receiving.reverseReceipt receipt db) := by
  have htaken : Booked (takeBack receipt db) := hbooked.same ⟨rfl, rfl, rfl⟩
  exact htaken.strike hstored hreturn (reverseQuantity receipt.quantityReceived)
    (fun _ => rfl) fun _ => rfl

theorem visibleReceipt?_mem {db : Db} (hvisible : visibleReceipt? ctx db receiptId = some receipt) :
    receipt ∈ db.itemReceipts.rows ∧ receipt.receiptId = receiptId := by
  rw [visibleReceipt?, Option.filter_eq_some_iff] at hvisible
  exact Table.find?_eq_some_iff.mp hvisible.1

/-- Deleting a receipt makes no other receipt appear. -/
theorem visibleReceipt?_reverseReceipt {db : Db} {found : ItemReceipt}
    (hvisible : visibleReceipt? ctx (reverseReceipt receipt db) receiptId =
      some found) : visibleReceipt? ctx db receiptId = some found := by
  rw [visibleReceipt?, Option.filter_eq_some_iff] at hvisible ⊢
  obtain ⟨hfind, hscope⟩ := hvisible
  have hreceipts : (reverseReceipt receipt db).itemReceipts =
      db.itemReceipts.delete fun row => row.receiptId = receipt.receiptId := by
    unfold reverseReceipt deleteReceipt updatePoLine
    cases receipt.poLineId <;> rfl
  rw [hreceipts, Table.find?_delete, Option.filter_eq_some_iff] at hfind
  exact ⟨hfind.1, hscope⟩

theorem Booked.reverseReceipts {receiptIds : List ℕ} {db : Db} (hbooked : Booked db)
    (hpurchases : ∀ receiptId ∈ receiptIds, ∀ receipt,
      visibleReceipt? ctx db receiptId = some receipt → receipt.poId.isSome) :
    Booked (Receiving.reverseReceipts ctx receiptIds db).1 := by
  induction receiptIds generalizing db with
  | nil => exact hbooked
  | cons receiptId rest ih =>
      rw [Receiving.reverseReceipts]
      cases hvisible : visibleReceipt? ctx db receiptId with
      | none =>
          exact ih hbooked fun other hother => hpurchases other (List.mem_cons_of_mem _ hother)
      | some receipt =>
          have hstored := (visibleReceipt?_mem hvisible).1
          have hpo := hpurchases receiptId List.mem_cons_self receipt hvisible
          apply ih (hbooked.reverseReceipt hstored (hbooked.formed.purchase receipt hstored hpo))
          intro other hother found hfound
          exact hpurchases other (List.mem_cons_of_mem _ hother) found
            (visibleReceipt?_reverseReceipt hfound)

/-- The cancel would strike a return receipt: it names one that the operator sees,
and no receipt of another purchase order that would stop it. -/
def CancelsReturn (db : Db) (call : ReceivingCall) : Prop :=
  match call.request with
  | .cancelReceiving request =>
      mismatched call.ctx db request = [] ∧
        ∃ receiptId ∈ request.receiptIds,
          (visibleReceipt? call.ctx db receiptId).any fun receipt => receipt.poId = none
  | .receiveItems _ => False
  | .recordUnreceive _ => False
  | .createRma _ => False
  | .receiveRma _ => False

instance (db : Db) (call : ReceivingCall) : Decidable (CancelsReturn db call) := by
  unfold CancelsReturn
  split <;> infer_instance

theorem Booked.cancelReceiving {db : Db} {request : CancelReceivingRequest}
    {reversed : ℕ} (hbooked : Booked db)
    (hsafe : ¬ CancelsReturn db ⟨ctx, .cancelReceiving request⟩)
    (hok : Receiving.cancelReceiving ctx db request = .ok (db', reversed)) :
    Booked db' := by
  rw [Receiving.cancelReceiving] at hok
  split at hok
  · cases hok
    exact hbooked
  · simp only [bind_eq_ok, require_eq_ok, pure_eq_ok, Prod.mk.injEq] at hok
    obtain ⟨-, hmatched, rfl, -⟩ := hok
    have hreversed : Booked (Receiving.reverseReceipts ctx request.receiptIds db).1 := by
      apply hbooked.reverseReceipts
      intro receiptId hnamed receipt hvisible
      rw [Option.isSome_iff_ne_none]
      intro hnone
      exact hsafe ⟨hmatched, receiptId, hnamed, by simp [hvisible, hnone]⟩
    exact hreversed.same (sameBooks_run (fun _ _ => sameBooks_setPoStatus ..) _ _)

theorem sameBooks_subtractOnHand (now : ℕ) (db : Db) (takes : List (InventoryRow × ℤ)) :
    SameBooks db (run (subtractOnHand now) db takes) := by
  apply sameBooks_run
  intro state take
  exact ⟨rfl, rfl, rfl⟩

theorem Booked.deriveLineStatuses {db : Db} (hbooked : Booked db) (poId : ℕ) :
    Booked (Receiving.deriveLineStatuses poId db) := by
  have hpurchases := hbooked.ledger.purchases.update (fun line => line.poId = poId)
    deriveLineStatus (fun _ => rfl) fun _ => rfl
  exact ⟨⟨hpurchases, hbooked.ledger.returns⟩,
    ⟨hbooked.formed.purchase, hbooked.formed.positive, hbooked.formed.stored⟩⟩

theorem Booked.recomputePoStatus {db : Db} (hbooked : Booked db) (poId : ℕ) :
    Booked (Receiving.recomputePoStatus poId db).1 :=
  (hbooked.deriveLineStatuses poId).same (sameBooks_setPoStatus (some poId) _ _)

theorem Booked.recordUnreceive {db : Db} {result : Unreceived} (hbooked : Booked db)
    (hok : Receiving.recordUnreceive ctx db receiptId = .ok (db', result)) :
    Booked db' := by
  simp only [Receiving.recordUnreceive, recordUnreceiveOf, bind_eq_ok, require_eq_ok, orThrow_eq_ok,
    pure_eq_ok, Prod.mk.injEq] at hok
  obtain ⟨receipt, hfind, poId, hpo, -, -, -, -, rfl, -⟩ := hok
  obtain ⟨hstored, rfl⟩ := Table.find?_eq_some_iff.mp hfind
  have hwalked := sameBooks_subtractOnHand ctx.now db
    (draws InventoryRow.available receipt.quantityReceived (reversalRows db receipt))
  have hstruck := (hbooked.same hwalked).strike (hwalked.itemReceipts ▸ hstored)
    (hbooked.formed.purchase receipt hstored (Option.isSome_iff_exists.mpr ⟨_, hpo⟩))
    (lowerReceived receipt.quantityReceived) (fun _ => rfl) fun _ => rfl
  exact (hstruck.recomputePoStatus poId).same (sameBooks_emitEvent ..)

/-! ## Returns -/

theorem Booked.insertReturnLine {db : Db} (hbooked : Booked db) (soId : ℕ)
    (numbered : ReturnLine × ℕ) :
    Booked (SalesOrders.insertReturnLine soId db numbered) := by
  refine ⟨⟨hbooked.ledger.purchases, ?_⟩, ⟨hbooked.formed.purchase, hbooked.formed.positive, ?_⟩⟩
  · exact hbooked.ledger.returns.open _ _ rfl hbooked.formed.stored
  · intro receipt hreceipt soLineId hnamed
    exact Nat.lt_succ_of_lt (hbooked.formed.stored receipt hreceipt soLineId hnamed)

theorem Booked.createRma {now : ℕ} {db : Db} {originalSoId : ℕ}
    {lines : List ReturnLine} {created : CreatedReturn} (hbooked : Booked db)
    (hok : SalesOrders.createRma now db originalSoId lines = .ok (db', created)) :
    Booked db' := by
  simp only [SalesOrders.createRma, bind_eq_ok, require_eq_ok, orThrow_eq_ok,
    pure_eq_ok, Prod.mk.injEq] at hok
  obtain ⟨original, -, soNumber, -, opened, hopened, -, -, rfl, -⟩ := hok
  simp only [insertReturn, bind_eq_ok, require_eq_ok, pure_eq_ok] at hopened
  obtain ⟨-, -, rfl⟩ := hopened
  apply run_invariant fun state numbered hstate (_ : True) =>
    hstate.insertReturnLine _ numbered
  · exact hbooked.same ⟨rfl, rfl, rfl⟩
  · exact along_forall (fun _ _ => trivial) _ _

/-- A receipt of a return line, with the line's counter raised. -/
theorem Booked.receiveReturn {db booked : Db} (hbooked : Booked db)
    (hinserted : insertReceipt receipt db = .ok booked)
    (hstored : line ∈ db.salesOrderLines.rows)
    (hline : receipt.soLineId = some line.soLineId) (hpo : receipt.poId = none)
    (hpoLine : receipt.poLineId = none) :
    Booked (updateLine (some line.soLineId) (receiveUnits receipt.quantityReceived)
      booked) := by
  simp only [insertReceipt, bind_eq_ok, require_eq_ok, pure_eq_ok] at hinserted
  obtain ⟨-, -, rfl⟩ := hinserted
  refine ⟨⟨?_, ?_⟩, ⟨?_, ?_, ?_⟩⟩
  · exact hbooked.ledger.purchases.bookElsewhere _ _ hpoLine
  · exact hbooked.ledger.returns.book
      (fun receiptId => { receipt with receiptId := receiptId }) (fun _ => rfl) hline
      (receiveUnits receipt.quantityReceived) (fun _ => rfl) fun _ _ _ => rfl
  · intro stored hmem hsome
    rcases List.mem_append.mp hmem with hold | hnew
    · exact hbooked.formed.purchase stored hold hsome
    · rw [List.mem_singleton.mp hnew, hpo] at hsome
      cases hsome
  · intro stored hmem hsome
    rcases List.mem_append.mp hmem with hold | hnew
    · exact hbooked.formed.positive stored hold hsome
    · rw [List.mem_singleton.mp hnew, hpoLine] at hsome
      cases hsome
  · intro stored hmem soLineId hnamed
    rcases List.mem_append.mp hmem with hold | hnew
    · exact hbooked.formed.stored stored hold soLineId hnamed
    · rw [List.mem_singleton.mp hnew] at hnamed
      rw [← Option.some.inj (hline.symm.trans hnamed)]
      exact db.salesOrderLines.keys_lt line hstored

theorem Booked.bookReturn {db : Db} (hbooked : Booked db) (hstored : line ∈ db.salesOrderLines.rows)
    (hok : SalesOrders.bookReturn ctx db request line = .ok (db', result)) :
    Booked db' := by
  simp only [SalesOrders.bookReturn, bind_eq_ok, pure_eq_ok, Prod.mk.injEq] at hok
  obtain ⟨booked, hinserted, rfl, -⟩ := hok
  have hreceived := hbooked.receiveReturn hinserted hstored rfl rfl rfl
  have hstocked := sameBooks_addInventory ctx.now request.itemId request.binId
    request.warehouseId request.quantity none booked
  -- The statements on the stock and on the line touch different tables.
  have hadvanced : SameBooks
      (updateLine (some line.soLineId) (receiveUnits request.quantity) booked fun _ => rfl)
      (updateLine (some line.soLineId) (receiveUnits request.quantity)
        (addInventory ctx.now request.itemId request.binId request.warehouseId
          request.quantity none booked) fun _ => rfl) :=
    ⟨hstocked.purchaseOrderLines,
      congrArg (fun lines => lines.updateKey line.soLineId
        (receiveUnits request.quantity) fun _ => rfl) hstocked.salesOrderLines,
      hstocked.itemReceipts⟩
  exact (hreceived.same hadvanced).same
    ((sameBooks_setOrderStatus ..).trans (sameBooks_emitEvent ..))

theorem Booked.receiveRma {db : Db} (hbooked : Booked db)
    (hok : SalesOrders.receiveRma ctx db request = .ok (db', result)) : Booked db' := by
  simp only [SalesOrders.receiveRma, bind_eq_ok, orThrow_eq_ok] at hok
  obtain ⟨rma, -, line, hline, hok⟩ := hok
  split at hok
  · simp only [pure_eq_ok, Prod.mk.injEq] at hok
    exact hok.1 ▸ hbooked
  · simp only [bind_eq_ok, require_eq_ok, orThrow_eq_ok] at hok
    obtain ⟨-, -, bin, -, -, -, hok⟩ := hok
    exact hbooked.bookReturn (List.mem_of_find?_eq_some hline) hok

/-! ## Runs -/

theorem Booked.serve {db : Db} {call : ReceivingCall} (hbooked : Booked db)
    (hsafe : ¬ CancelsReturn db call) : Booked (serveReceiving db call) := by
  obtain ⟨ctx, request⟩ := call
  cases request with
  | receiveItems request =>
      exact committed_cases hbooked fun _ _ hok => hbooked.receiveItems hok
  | cancelReceiving request =>
      exact committed_cases hbooked fun _ _ hok => hbooked.cancelReceiving hsafe hok
  | recordUnreceive receiptId =>
      exact committed_cases hbooked fun _ _ hok => hbooked.recordUnreceive hok
  | createRma request =>
      exact committed_cases hbooked fun _ _ hok => hbooked.createRma hok
  | receiveRma request =>
      exact committed_cases hbooked fun _ _ hok => hbooked.receiveRma hok

/-- Runs in which no cancel strikes a return receipt keep the ledger. -/
theorem receiptLedger_run {db : Db} {calls : List ReceivingCall}
    (hledger : ReceiptLedger db) (hformed : ReceiptsFormed db)
    (hsafe : Along serveReceiving (fun state call => ¬ CancelsReturn state call) db
      calls) : ReceiptLedger (run serveReceiving db calls) :=
  (run_invariant (fun _ _ hbooked hstep => Booked.serve hbooked hstep)
    ⟨hledger, hformed⟩ hsafe).ledger

/-! ## A small receiving dock -/

namespace SmallReceiving

/-- The small warehouse with a purchase order of five units and a shipped sale of
three. -/
def db : Db :=
  { SmallWarehouse.db with
    purchaseOrders := Table.empty.insert fun poId =>
      { poId := poId
        warehouseId := 1 }
    purchaseOrderLines := Table.empty.insert fun poLineId =>
      { poLineId := poLineId
        poId := 1
        itemId := 1
        quantityOrdered := 5
        lineNumber := 1 }
    salesOrders := Table.empty.insert fun soId =>
      { soId := soId
        soNumber := "SO-1"
        status := .soShipped
        warehouseId := 1
        shippedAt := some 0
        createdAt := 0 }
    salesOrderLines := Table.empty.insert fun soLineId =>
      { soLineId := soLineId
        soId := 1
        itemId := 1
        quantityOrdered := 3
        quantityAllocated := 3
        quantityPicked := 3
        quantityPacked := 3
        quantityShipped := 3
        lineNumber := 1
        status := .ofOrder .soShipped } }

/-- Units of the item received into the staging bin on purchase order 1. -/
def receive (receipt : ℕ) (quantity : ℤ)
    (hpos : decide (0 < quantity) = true := by exact Eq.refl true)
    (hle : decide (quantity ≤ 100000) = true := by exact Eq.refl true) : ReceivingRequest :=
  .receiveItems
    { poId := 1
      items := [⟨1, quantity, 3, none, SmallWarehouse.uuid receipt,
        SmallWarehouse.positive hpos, SmallWarehouse.inTask hle⟩]
      items_ne_nil := List.cons_ne_nil _ _ }

/-- A return of two of the three units shipped. -/
def expect : ReceivingRequest :=
  .createRma ⟨1, [⟨1, 2, by decide, by decide⟩], List.cons_ne_nil _ _⟩

/-- The two units back in the staging bin, on return order 2. -/
def takeReturn (receipt : ℕ) : ReceivingRequest :=
  .receiveRma ⟨2, 1, 2, 1, 3, none, SmallWarehouse.uuid receipt, by decide, by decide⟩

/-- `pat`'s calls with the requests, one a clock tick. -/
def calls (requests : List ReceivingRequest) : List ReceivingCall :=
  (requests.zipIdx 1).map fun (request, now) => ⟨SmallWarehouse.pat now, request⟩

def after (requests : List ReceivingRequest) : Db := run serveReceiving db (calls requests)

end SmallReceiving

/-- Two receipts, one of them reversed, a session cancelled, a return taken in. -/
def dockDay : List ReceivingRequest :=
  [SmallReceiving.receive 0 3, SmallReceiving.receive 1 2,
    .recordUnreceive 1, SmallReceiving.expect, SmallReceiving.takeReturn 2,
    .cancelReceiving ⟨1, [2]⟩]

theorem receiptLedger_run_dockDay : ReceiptLedger (SmallReceiving.after dockDay) :=
  receiptLedger_run (by decide) ⟨by decide, by decide, by decide⟩ (by decide)

/-- A session cancel that names the receipt of a return deletes it and takes its
units out of stock, and the return line still counts them. -/
theorem receiptLedger_cancelledReturn :
    ReceiptLedger SmallReceiving.db ∧
      ((SmallReceiving.after [SmallReceiving.expect, SmallReceiving.takeReturn 0,
          .cancelReceiving ⟨1, [1]⟩]).salesOrderLines.rows.map
        SalesOrderLine.quantityReceived) = [0, 2] ∧
      (SmallReceiving.after [SmallReceiving.expect, SmallReceiving.takeReturn 0,
        .cancelReceiving ⟨1, [1]⟩]).itemReceipts.rows = [] ∧
      ¬ ReceiptLedger (SmallReceiving.after [SmallReceiving.expect,
        SmallReceiving.takeReturn 0, .cancelReceiving ⟨1, [1]⟩]) := by
  decide

end SentryWms.Receiving

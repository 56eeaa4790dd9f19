import SentryWms.Receiving.Ledger

/-!
# Session cancels with nothing to cancel

The cancel skips every receipt it does not see and refuses those of another
purchase order, and then refreshes the purchase order of the request whether or not
a receipt was reversed.  The refresh has its own copy of the status derivation: it
reopens an order that was closed, and takes an order without lines for received.
-/

namespace SentryWms.Receiving

open Relational

variable {ctx : RequestContext} {db : Db} {request : CancelReceivingRequest}

/-! ## The request and the promise -/

/-- None of the named receipts is one the caller may cancel: those that are seen
belong to another purchase order. -/
def NothingToCancel (ctx : RequestContext) (db : Db)
    (request : CancelReceivingRequest) : Prop :=
  ∀ receiptId ∈ request.receiptIds, ∀ receipt,
    visibleReceipt? ctx db receiptId = some receipt →
      receipt.poId.any fun poId => poId ≠ request.poId

/-- The status the refresh writes for an order with the lines. -/
def refreshedPoStatus (lines : List PurchaseOrderLine) : PurchaseOrderStatus :=
  if lines.all fun line => line.quantityOrdered ≤ line.quantityReceived then
    .poReceived
  else if lines.any fun line => 0 < line.quantityReceived then .poPartial
  else .poOpen

/-- The tables a session cancel writes besides the receipts. -/
structure SameOrders (before after : Db) : Prop where
  purchaseOrders : after.purchaseOrders = before.purchaseOrders
  purchaseOrderLines : after.purchaseOrderLines = before.purchaseOrderLines
  salesOrderLines : after.salesOrderLines = before.salesOrderLines
  inventory : after.inventory = before.inventory

/-- What a cancel promises where it has nothing to cancel.  A status is derived
only by a request that names receipts and is not refused. -/
structure CancelsNothing (ctx : RequestContext) (db : Db)
    (request : CancelReceivingRequest) : Prop where
  unchanged : SameOrders db (committed db (cancelReceiving ctx db request))
  derived : (cancelReceiving ctx db request).isOk → request.receiptIds ≠ [] →
    ∀ order, db.purchaseOrders.find? request.poId = some order →
      refreshedPoStatus (poLinesOf db (some request.poId)) = (recomputePoStatus request.poId db).2

/-! ## The two derivations -/

theorem refreshPoStatus_eq (db : Db) (poId : Option ℕ) :
    refreshPoStatus db poId =
      setPoStatus poId (refreshedPoStatus (poLinesOf db poId)) db := rfl

/-- The two copies part on an order without lines only. -/
theorem refreshedPoStatus_of_lines {lines : List PurchaseOrderLine}
    (hlines : lines ≠ []) : refreshedPoStatus lines = derivedPoStatus lines := by
  unfold refreshedPoStatus derivedPoStatus
  by_cases hall : lines.all fun line => line.quantityOrdered ≤ line.quantityReceived
  · rw [if_pos hall, if_pos ⟨hlines, hall⟩]
  · have hnotboth : ¬ (lines ≠ [] ∧
        lines.all fun line => line.quantityOrdered ≤ line.quantityReceived) :=
      fun hboth => hall hboth.2
    rw [if_neg hall, if_neg hnotboth]

theorem refreshedPoStatus_nil : refreshedPoStatus [] = .poReceived := rfl

theorem derivedPoStatus_nil : derivedPoStatus [] = .poOpen := rfl

/-- The header follows the quantities, which deriving the line statuses leaves. -/
theorem derivedPoStatus_map (lines : List PurchaseOrderLine) :
    derivedPoStatus (lines.map deriveLineStatus) = derivedPoStatus lines := by
  unfold derivedPoStatus
  have hnil : lines.map deriveLineStatus = [] ↔ lines = [] := List.map_eq_nil_iff
  simp only [ne_eq, hnil, List.all_map, List.any_map]
  rfl

theorem poLinesOf_deriveLineStatuses (poId : ℕ) (db : Db) :
    poLinesOf (deriveLineStatuses poId db) (some poId) =
      (poLinesOf db (some poId)).map deriveLineStatus := by
  simp only [poLinesOf, deriveLineStatuses, Table.select, Table.update,
    Option.some.injEq, decide_eq_true_eq]
  induction db.purchaseOrderLines.rows with
  | nil => rfl
  | cons line rest ih =>
      by_cases hline : line.poId = poId
      · have hderived : (deriveLineStatus line).poId = poId := hline
        simp [hline, hderived, ih]
      · simp [hline, ih]

theorem recomputePoStatus_status (poId : ℕ) (db : Db) :
    (recomputePoStatus poId db).2 = derivedPoStatus (poLinesOf db (some poId)) := by
  rw [recomputePoStatus, poLinesOf_deriveLineStatuses, derivedPoStatus_map]

/-! ## The cancel without a receipt -/

/-- Receipts that are not seen are skipped. -/
theorem reverseReceipts_of_unseen {receiptIds : List ℕ}
    (hunseen : ∀ receiptId ∈ receiptIds, visibleReceipt? ctx db receiptId = none) :
    reverseReceipts ctx receiptIds db = (db, []) := by
  induction receiptIds with
  | nil => rfl
  | cons receiptId rest ih =>
      rw [reverseReceipts, hunseen receiptId List.mem_cons_self]
      exact ih fun later hlater => hunseen later (List.mem_cons_of_mem _ hlater)

theorem mem_mismatched {receipt : ItemReceipt} :
    receipt ∈ mismatched ctx db request ↔
      receipt.receiptId ∈ request.receiptIds ∧
        visibleReceipt? ctx db receipt.receiptId = some receipt ∧
        (receipt.poId.any fun poId => poId ≠ request.poId) = true := by
  simp only [mismatched, Table.select, List.mem_filter, decide_eq_true_eq,
    visibleReceipt?, Option.filter_eq_some_iff, Table.find?_eq_some_iff]
  tauto

/-- A seen receipt stops the cancel when there is nothing to cancel. -/
theorem mismatched_eq_nil_iff (hnothing : NothingToCancel ctx db request) :
    mismatched ctx db request = [] ↔
      ∀ receiptId ∈ request.receiptIds, visibleReceipt? ctx db receiptId = none := by
  rw [List.eq_nil_iff_forall_not_mem]
  constructor
  · intro hmatched receiptId hnamed
    cases hvisible : visibleReceipt? ctx db receiptId with
    | none => rfl
    | some receipt =>
        have hkey := (visibleReceipt?_mem hvisible).2
        have hother := hnothing receiptId hnamed receipt hvisible
        rw [← hkey] at hnamed hvisible
        exact absurd (mem_mismatched.mpr ⟨hnamed, hvisible, hother⟩) (hmatched receipt)
  · intro hunseen receipt hmem
    obtain ⟨hnamed, hvisible, -⟩ := mem_mismatched.mp hmem
    rw [hunseen receipt.receiptId hnamed] at hvisible
    cases hvisible

/-- The request goes through to the refresh when it names receipts and sees
none. -/
theorem cancelReceiving_unseen (hnames : request.receiptIds ≠ [])
    (hunseen : ∀ receiptId ∈ request.receiptIds, visibleReceipt? ctx db receiptId = none)
    (hmatched : mismatched ctx db request = []) :
    cancelReceiving ctx db request =
      .ok (refreshPoStatus db (some request.poId), 0) := by
  rw [cancelReceiving, if_neg hnames, require_bind hmatched, reverseReceipts_of_unseen hunseen]
  rfl

/-- It is refused when a named receipt is seen. -/
theorem cancelReceiving_seen (hnames : request.receiptIds ≠ [])
    (hmismatched : mismatched ctx db request ≠ []) :
    cancelReceiving ctx db request = .error (.httpError 400
      "receipt_ids span multiple purchase orders; refusing to cross-cancel. Cancel one PO at a time.") := by
  rw [cancelReceiving, if_neg hnames, require_bind_not hmismatched]

/-! ## When the header is left alone -/

/-- The header of the order, if it is stored, already has the status. -/
def HeaderHas (db : Db) (poId : ℕ) (status : PurchaseOrderStatus) : Prop :=
  ∀ order, db.purchaseOrders.find? poId = some order → order.status = status

/-- Writing a header's status changes nothing where the header has it. -/
theorem setPoStatus_same_iff (poId : ℕ) (status : PurchaseOrderStatus) (db : Db) :
    SameOrders db (setPoStatus (some poId) status db) ↔ HeaderHas db poId status := by
  constructor
  · intro hsame order hfind
    have hafter := congrArg (fun table => Table.find? table poId) hsame.purchaseOrders
    simp only [setPoStatus, Table.find?_updateKey, if_true, hfind, Option.map_some,
      Option.some.injEq] at hafter
    rw [← hafter]
  · intro hheader
    refine ⟨?_, rfl, rfl, rfl⟩
    apply Table.ext
    · change (db.purchaseOrders.rows.map fun order =>
        if decide (order.poId = poId) then { order with status := status } else order) =
          db.purchaseOrders.rows
      nth_rewrite 2 [← List.map_id db.purchaseOrders.rows]
      apply List.map_congr_left
      intro order hstored
      by_cases hkey : order.poId = poId
      · have hstatus := hheader order (Table.find?_eq_some_iff.mpr ⟨hstored, hkey⟩)
        rw [if_pos (decide_eq_true hkey), ← hstatus]
        rfl
      · rw [if_neg (by simpa using hkey)]
        rfl
    · rfl

/-- The header of the order is up to date: it has lines, and the status they
derive. -/
def HeaderCurrent (db : Db) (poId : ℕ) : Prop :=
  ∀ order, db.purchaseOrders.find? poId = some order →
    poLinesOf db (some poId) ≠ [] ∧ order.status = derivedPoStatus (poLinesOf db (some poId))

theorem headerCurrent_iff (db : Db) (poId : ℕ) :
    HeaderCurrent db poId ↔
      HeaderHas db poId (refreshedPoStatus (poLinesOf db (some poId))) ∧
        ∀ order, db.purchaseOrders.find? poId = some order →
          refreshedPoStatus (poLinesOf db (some poId)) =
            (recomputePoStatus poId db).2 := by
  constructor
  · intro hcurrent
    constructor
    · intro order hfind
      obtain ⟨hlines, hstatus⟩ := hcurrent order hfind
      rw [hstatus, refreshedPoStatus_of_lines hlines]
    · intro order hfind
      rw [recomputePoStatus_status, refreshedPoStatus_of_lines (hcurrent order hfind).1]
  · rintro ⟨hheader, hderived⟩ order hfind
    have hsame := hderived order hfind
    rw [recomputePoStatus_status] at hsame
    refine ⟨?_, (hheader order hfind).trans hsame⟩
    intro hnil
    rw [hnil, refreshedPoStatus_nil, derivedPoStatus_nil] at hsame
    cases hsame

/-- A cancel with nothing to cancel is no change exactly when it names no receipt,
or sees one of another purchase order, or the header it refreshes is up to date. -/
theorem cancelsNothing_iff (hnothing : NothingToCancel ctx db request) :
    CancelsNothing ctx db request ↔
      request.receiptIds = [] ∨
        (∃ receiptId ∈ request.receiptIds, visibleReceipt? ctx db receiptId ≠ none) ∨
        HeaderCurrent db request.poId := by
  by_cases hnames : request.receiptIds = []
  · have hok : cancelReceiving ctx db request = .ok (db, 0) := if_pos hnames
    refine ⟨fun _ => Or.inl hnames, fun _ => ⟨?_, fun _ hnamed => absurd hnames hnamed⟩⟩
    rw [hok]
    exact ⟨rfl, rfl, rfl, rfl⟩
  · by_cases hmatched : mismatched ctx db request = []
    · have hunseen := (mismatched_eq_nil_iff hnothing).mp hmatched
      have hok := cancelReceiving_unseen hnames hunseen hmatched
      have hseen : ¬ ∃ receiptId ∈ request.receiptIds,
          visibleReceipt? ctx db receiptId ≠ none := by
        rintro ⟨receiptId, hnamed, hvisible⟩
        exact hvisible (hunseen receiptId hnamed)
      simp only [hnames, hseen, false_or]
      rw [headerCurrent_iff, ← setPoStatus_same_iff, ← refreshPoStatus_eq]
      constructor
      · rintro ⟨hunchanged, hderived⟩
        rw [hok] at hunchanged hderived
        exact ⟨hunchanged, hderived rfl hnames⟩
      · rintro ⟨hunchanged, hderived⟩
        refine ⟨?_, fun _ _ => hderived⟩
        rw [hok]
        exact hunchanged
    · have herror := cancelReceiving_seen hnames hmatched
      have hseen : ∃ receiptId ∈ request.receiptIds,
          visibleReceipt? ctx db receiptId ≠ none := by
        by_contra hnone
        push Not at hnone
        exact hmatched ((mismatched_eq_nil_iff hnothing).mpr hnone)
      refine ⟨fun _ => Or.inr (Or.inl hseen), fun _ => ⟨?_, fun hok => ?_⟩⟩
      · rw [herror]
        exact ⟨rfl, rfl, rfl, rfl⟩
      · rw [herror] at hok
        cases hok

/-! ## Small runs -/

/-- The small dock with its purchase order in the status. -/
def SmallReceiving.dbWith (status : PurchaseOrderStatus) : Db :=
  setPoStatus (some 1) status SmallReceiving.db

/-- A cancel that names a receipt which was never booked. -/
def SmallReceiving.staleCancel : CancelReceivingRequest := ⟨1, [7]⟩

theorem nothingToCancel_staleCancel (status : PurchaseOrderStatus) :
    NothingToCancel (SmallWarehouse.pat 1) (SmallReceiving.dbWith status)
      SmallReceiving.staleCancel := by
  intro receiptId hnamed receipt hvisible
  rw [List.mem_singleton.mp hnamed] at hvisible
  cases hvisible

/-- An open order that has received nothing stays open. -/
theorem cancelsNothing_open :
    CancelsNothing (SmallWarehouse.pat 1) (SmallReceiving.dbWith .poOpen)
      SmallReceiving.staleCancel := by
  apply (cancelsNothing_iff (nothingToCancel_staleCancel .poOpen)).mpr
  refine Or.inr (Or.inr ?_)
  intro order hfind
  cases hfind
  exact ⟨by decide, by decide⟩

/-- A closed order is reopened by a cancel that reverses nothing. -/
theorem not_cancelsNothing_closed :
    ¬ ∀ (ctx : RequestContext) (db : Db) (request : CancelReceivingRequest),
      NothingToCancel ctx db request → CancelsNothing ctx db request := by
  intro hall
  have hcancel := hall (SmallWarehouse.pat 1) (SmallReceiving.dbWith .poClosed)
    SmallReceiving.staleCancel (nothingToCancel_staleCancel .poClosed)
  have hstatus : ((committed (SmallReceiving.dbWith .poClosed)
      (cancelReceiving (SmallWarehouse.pat 1) (SmallReceiving.dbWith .poClosed)
        SmallReceiving.staleCancel)).purchaseOrders.rows.map PurchaseOrder.status) =
      (SmallReceiving.dbWith .poClosed).purchaseOrders.rows.map PurchaseOrder.status := by
    rw [hcancel.unchanged.purchaseOrders]
  revert hstatus
  decide

end SentryWms.Receiving

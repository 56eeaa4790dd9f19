import SentryWms.System

/-!
# Voiding a ship

A fulfillment remembers the status its order had before the ship and nothing else
of it.  The void clears the shipment columns of the header, except where the order
counted as shipped before, and sets every line of the order back to unshipped.  So
the ship is undone for orders that had none of this before it.
-/

namespace SentryWms.Fulfillment

open Relational

/-! ## The void of one fulfillment -/

/-- The updates of a void: the header, the fulfillment and all lines of the order. -/
def writeVoid (soId fulfillmentId : ℕ) (revertTo : SalesOrderStatus) (db : Db) : Db :=
  let reverted := revertHeader soId revertTo db
  { reverted with
    itemFulfillments := reverted.itemFulfillments.updateKey fulfillmentId
      fun row => { row with voided := true }
    salesOrderLines := reverted.salesOrderLines.update (fun line => line.soId = soId)
      fun line => { line with quantityShipped := 0, status := .ofOrder revertTo } }

/-- `record_void_ship`, on an order whose status the caller has checked and with the
pre-ship status of the fulfillment.  The header's status column is not nullable. -/
def recordVoidShip (ctx : RequestContext) (db : Db) (order : SalesOrder)
    (fulfillmentId : ℕ) (preShipStatus : Option SalesOrderStatus) :
    Except ServiceError (Db × SalesOrderStatus) := do
  let revertTo ← orThrow preShipStatus (.integrityError "sales_orders_status_not_null")
  pure (emitEvent ctx .shipVoided order.soId order.warehouseId
    (writeVoid order.soId fulfillmentId revertTo db), revertTo)

/-! ## Ships -/

/-- The two ways a ship is recorded. -/
inductive ShipCall
  | record (order : SalesOrder) (shipment : Shipment)
  | admin (request : AdminShipRequest)

namespace ShipCall

def soId : ShipCall → ℕ
  | record order _ => order.soId
  | admin request => request.soId

/-- The state after the ship, and the fulfillment it opens. -/
def serve (ctx : RequestContext) (db : Db) :
    ShipCall → Except ServiceError (Db × ℕ)
  | record order shipment => do
      let shipped ← recordShip ctx db order shipment
      pure (shipped, db.itemFulfillments.nextKey)
  | admin request => recordAdminShip ctx db request

/-- What the callers of `record_ship` check: they pass the order they read and lock,
in a status that ships.  `record_admin_ship` checks for itself. -/
def Checked (db : Db) : ShipCall → Prop
  | record order _ =>
      db.salesOrders.find? order.soId = some order ∧
        (order.status = .soPicked ∨ order.status = .soPacked)
  | admin _ => True

end ShipCall

/-! ## What a void is to restore -/

/-- The columns of the header that a ship and its void write. -/
structure SameHeader (before after : SalesOrder) : Prop where
  status : after.status = before.status
  carrier : after.carrier = before.carrier
  trackingNumber : after.trackingNumber = before.trackingNumber
  shipMethod : after.shipMethod = before.shipMethod
  shippedAt : after.shippedAt = before.shippedAt

/-- The order and its lines are as they were before the ship. -/
structure Restores (before after : Db) (order : SalesOrder) : Prop where
  header : ∃ restored, after.salesOrders.find? order.soId = some restored ∧
    SameHeader order restored
  lines : ∀ line ∈ linesOf before order.soId,
    ∃ restored, after.salesOrderLines.find? line.soLineId = some restored ∧
      restored.status = line.status ∧
      restored.quantityShipped = line.quantityShipped

/-- Voiding the fulfillment of a ship goes through, and the order is as before. -/
def VoidRestores (ctx : RequestContext) (db shipped : Db) (order : SalesOrder)
    (fulfillmentId : ℕ) : Prop :=
  ∃ current fulfillment voided revertedTo,
    shipped.salesOrders.find? order.soId = some current ∧
      shipped.itemFulfillments.find? fulfillmentId = some fulfillment ∧
      recordVoidShip ctx shipped current fulfillmentId fulfillment.preShipStatus =
        .ok (voided, revertedTo) ∧
      Restores db voided order

/-! ## What a ship leaves -/

/-- Every line is stored as before, on the same order. -/
def LinesStay (before after : Db) : Prop :=
  ∀ k, (after.salesOrderLines.find? k).map SalesOrderLine.soId =
    (before.salesOrderLines.find? k).map SalesOrderLine.soId

variable {after db' : Db} {fulfillmentId : ℕ} {header : SalesOrder}
  {preShipStatus : Option SalesOrderStatus} {ctx : RequestContext}

theorem LinesStay.trans {before middle : Db} (hfirst : LinesStay before middle)
    (hsecond : LinesStay middle after) : LinesStay before after :=
  fun k => (hsecond k).trans (hfirst k)

/-- What a recorded ship leaves for the void: the header it wrote, the fulfillment
with the status it remembers, and the lines in place. -/
structure Shipped (db shipped : Db) (order header : SalesOrder) (fulfillmentId : ℕ)
    (preShipStatus : Option SalesOrderStatus) : Prop where
  header : shipped.salesOrders.find? order.soId = some header
  fulfillment : (shipped.itemFulfillments.find? fulfillmentId).map
    ItemFulfillment.preShipStatus = some preShipStatus
  lines : LinesStay db shipped

/-- The line loop of a ship writes no header and no fulfillment. -/
structure LoopFrame (before after : Db) : Prop where
  salesOrders : after.salesOrders = before.salesOrders
  itemFulfillments : after.itemFulfillments = before.itemFulfillments
  lines : LinesStay before after

theorem LoopFrame.refl (db : Db) : LoopFrame db db := ⟨rfl, rfl, fun _ => rfl⟩

theorem LoopFrame.trans {before middle : Db} (hfirst : LoopFrame before middle)
    (hsecond : LoopFrame middle after) : LoopFrame before after :=
  ⟨hsecond.salesOrders.trans hfirst.salesOrders,
    hsecond.itemFulfillments.trans hfirst.itemFulfillments,
    hfirst.lines.trans hsecond.lines⟩

theorem loopFrame_shipLine (fulfillmentId binId : ℕ) (quantity : ℤ)
    (line : SalesOrderLine) (db : Db) :
    LoopFrame db (shipLine fulfillmentId binId quantity line db) := by
  refine ⟨rfl, rfl, ?_⟩
  intro k
  simp only [shipLine, updateLine, Table.find?_updateKey]
  split
  · rw [Option.map_map]
    rfl
  · rfl

theorem loopFrame_run {step : Db → SalesOrderLine → Db}
    (hstep : ∀ db line, LoopFrame db (step db line)) (db : Db)
    (lines : List SalesOrderLine) : LoopFrame db (run step db lines) := by
  induction lines generalizing db with
  | nil => exact LoopFrame.refl db
  | cons line rest ih => exact (hstep db line).trans (ih _)

theorem loopFrame_adminShipLines {order : SalesOrder} {fallback : Option ℕ}
    {lines : List SalesOrderLine} {db : Db}
    (hshipped : adminShipLines order fulfillmentId fallback lines db = .ok db') :
    LoopFrame db db' := by
  induction lines generalizing db with
  | nil =>
      cases hshipped
      exact LoopFrame.refl _
  | cons line rest ih =>
      simp only [adminShipLines, bind_eq_ok, orThrow_eq_ok] at hshipped
      obtain ⟨binId, -, hrest⟩ := hshipped
      exact (loopFrame_shipLine ..).trans (ih hrest)

theorem loopFrame_emitEvent (ctx : RequestContext) (eventType : EventType)
    (aggregateId warehouseId : ℕ) (db : Db) :
    LoopFrame db (emitEvent ctx eventType aggregateId warehouseId db) := by
  unfold emitEvent
  split <;> exact ⟨rfl, rfl, fun _ => rfl⟩

/-- The fulfillment of the ship is the one that was opened. -/
theorem find?_openFulfillment (order : SalesOrder)
    (trackingNumber carrier shipMethod : Option String)
    (preShipStatus : Option SalesOrderStatus) (shippedAt : ℕ) (db : Db) :
    ((openFulfillment order trackingNumber carrier shipMethod preShipStatus shippedAt
        db).itemFulfillments.find? db.itemFulfillments.nextKey).map
        ItemFulfillment.preShipStatus = some preShipStatus := by
  simp only [openFulfillment, Table.find?_insert, if_true, Option.map_some]

theorem linesStay_openFulfillment (order : SalesOrder)
    (trackingNumber carrier shipMethod : Option String)
    (preShipStatus : Option SalesOrderStatus) (shippedAt : ℕ) (db : Db) :
    LinesStay db (openFulfillment order trackingNumber carrier shipMethod
      preShipStatus shippedAt db) := fun _ => rfl

/-- A ship opens its fulfillment, writes the lines and then the header. -/
theorem Shipped.of_loop {db opened looped : Db} {order : SalesOrder} (hopened : LinesStay db opened)
    (hfulfillment : (opened.itemFulfillments.find? fulfillmentId).map
      ItemFulfillment.preShipStatus = some preShipStatus)
    (hloop : LoopFrame opened looped)
    (hheader : after.salesOrders.find? order.soId = some header)
    (hfulfillments : after.itemFulfillments = looped.itemFulfillments)
    (hlines : LinesStay looped after) :
    Shipped db after order header fulfillmentId preShipStatus := by
  refine ⟨hheader, ?_, (hopened.trans hloop.lines).trans hlines⟩
  rw [hfulfillments, hloop.itemFulfillments]
  exact hfulfillment

/-- The header `record_ship` writes. -/
def recordedHeader (order : SalesOrder) (shipment : Shipment) : SalesOrder :=
  { order with
    status := .soShipped
    shippedAt := some shipment.shippedAt
    carrier := shipment.carrier
    trackingNumber := shipment.trackingNumber
    shipMethod := shipment.shipMethod.or order.shipMethod }

/-- The loop of `record_ship`, line by line. -/
theorem loopFrame_shipLines (soId fulfillmentId : ℕ) (db : Db) (lines : List SalesOrderLine) :
    LoopFrame db (run
      (fun db line =>
        shipLine fulfillmentId ((pickedBin? db soId line.itemId).getD 1)
          line.quantityPicked line db)
      db lines) :=
  loopFrame_run (fun db line => loopFrame_shipLine fulfillmentId
    ((pickedBin? db soId line.itemId).getD 1) line.quantityPicked line db) db lines

theorem recordShip_shipped {db : Db} {order : SalesOrder} {shipment : Shipment}
    (hstored : db.salesOrders.find? order.soId = some order)
    (hshipped : recordShip ctx db order shipment = .ok db') :
    Shipped db db' order (recordedHeader order shipment) db.itemFulfillments.nextKey
      shipment.preShipStatus := by
  simp only [recordShip, bind_eq_ok, require_eq_ok, pure_eq_ok] at hshipped
  obtain ⟨-, -, rfl⟩ := hshipped
  have hloop := loopFrame_shipLines order.soId db.itemFulfillments.nextKey
    (openFulfillment order shipment.trackingNumber shipment.carrier shipment.shipMethod
      shipment.preShipStatus shipment.shippedAt db) (shippableLines db order.soId)
  apply Shipped.of_loop (linesStay_openFulfillment _ _ _ _ _ _ _) (find?_openFulfillment ..) hloop
  · rw [(loopFrame_emitEvent ..).salesOrders, setShipped, Table.find?_updateKey,
      if_pos rfl, hloop.salesOrders]
    change (db.salesOrders.find? order.soId).map _ = _
    rw [hstored]
    rfl
  · rw [(loopFrame_emitEvent ..).itemFulfillments]
    rfl
  · exact fun k => (loopFrame_emitEvent ..).lines k

/-- The header `record_admin_ship` writes. -/
def correctedHeader (order : SalesOrder) (now : ℕ) : SalesOrder :=
  { order with
    status := .soShipped
    shippedAt := order.shippedAt.or (some (order.shippedAt.getD now)) }

theorem recordAdminShip_shipped {db : Db} {request : AdminShipRequest}
    {order : SalesOrder} (hstored : db.salesOrders.find? request.soId = some order)
    (hshipped : recordAdminShip ctx db request = .ok (db', fulfillmentId)) :
    Shipped db db' order (correctedHeader order ctx.now) fulfillmentId (some order.status) ∧
      (order.status = .soPicked ∨ order.status = .soPacked ∨
        order.status = .soShipped) := by
  simp only [recordAdminShip, bind_eq_ok, orThrow_eq_ok, require_eq_ok, pure_eq_ok,
    Prod.mk.injEq, hstored, Option.some.injEq] at hshipped
  obtain ⟨_, rfl, -, -, -, hstatus, -, -, -, -, -, -, looped, hlines, rfl, rfl⟩ := hshipped
  have hkey : order.soId = request.soId := Table.find?_key hstored
  have hloop := loopFrame_adminShipLines hlines
  have hclosed : Shipped db (setAdminShipped request.soId (order.shippedAt.getD ctx.now)
      looped) order (correctedHeader order ctx.now) db.itemFulfillments.nextKey
      (some order.status) := by
    apply Shipped.of_loop (linesStay_openFulfillment _ _ _ _ _ _ _) (find?_openFulfillment ..) hloop
    · rw [setAdminShipped, Table.find?_updateKey, if_pos hkey, hloop.salesOrders, hkey]
      change (db.salesOrders.find? request.soId).map _ = _
      rw [hstored]
      rfl
    · rfl
    · exact fun _ => rfl
  refine ⟨?_, hstatus⟩
  split
  · exact hclosed
  · refine ⟨?_, ?_, ?_⟩
    · rw [(loopFrame_emitEvent ..).salesOrders]
      exact hclosed.header
    · rw [(loopFrame_emitEvent ..).itemFulfillments]
      exact hclosed.fulfillment
    · exact hclosed.lines.trans (loopFrame_emitEvent ..).lines

/-! ## What the void leaves -/

/-- The header after the void. -/
def revertedHeader (preShipStatus : SalesOrderStatus) (header : SalesOrder) : SalesOrder :=
  if preShipStatus = .soShipped then { header with status := preShipStatus }
  else
    { header with
      status := preShipStatus
      trackingNumber := none
      carrier := none
      shippedAt := none }

theorem find?_revertHeader {soId : ℕ} {preShipStatus : SalesOrderStatus} {db : Db}
    (hstored : db.salesOrders.find? soId = some header) :
    (revertHeader soId preShipStatus db).salesOrders.find? soId =
      some (revertedHeader preShipStatus header) := by
  unfold revertHeader revertedHeader setOrderStatus
  split <;> rw [Table.find?_updateKey, if_pos rfl, hstored] <;> rfl

theorem revertHeader_salesOrderLines (soId : ℕ) (preShipStatus : SalesOrderStatus) (db : Db) :
    (revertHeader soId preShipStatus db).salesOrderLines = db.salesOrderLines := by
  unfold revertHeader
  split <;> rfl

/-- The lines of the order were unshipped, with the status the header has. -/
def LinesUnshipped (db : Db) (order : SalesOrder) : Prop :=
  ∀ line ∈ linesOf db order.soId, line.quantityShipped = 0 ∧ line.status = .ofOrder order.status

/-- The lines of the order after the void. -/
theorem find?_writeVoid_line {db shipped : Db} {order : SalesOrder}
    (hlines : LinesStay db shipped) (fulfillmentId : ℕ) (revertTo : SalesOrderStatus)
    {line : SalesOrderLine} (hline : line ∈ linesOf db order.soId) :
    ∃ restored,
      (writeVoid order.soId fulfillmentId revertTo shipped).salesOrderLines.find?
          line.soLineId = some restored ∧
        restored.status = .ofOrder revertTo ∧ restored.quantityShipped = 0 := by
  obtain ⟨hstored, horder⟩ := mem_linesOf.mp hline
  have hplace := hlines line.soLineId
  rw [Table.find?_eq_some_iff.mpr ⟨hstored, rfl⟩, Option.map_some, Option.map_eq_some_iff] at hplace
  obtain ⟨kept, hkept, hsame⟩ := hplace
  have htest : decide (kept.soId = order.soId) = true := decide_eq_true (hsame.trans horder)
  refine ⟨{ kept with quantityShipped := 0, status := .ofOrder revertTo }, ?_, rfl, rfl⟩
  simp only [writeVoid]
  rw [Table.find?_update, revertHeader_salesOrderLines, hkept, Option.map_some, if_pos htest]

/-- The void restores the order when its header and its lines are reset to what
they were. -/
theorem restores_writeVoid_iff {db shipped : Db} {order : SalesOrder} {revertTo : SalesOrderStatus}
    (hshipped : Shipped db shipped order header fulfillmentId preShipStatus)
    (hframe : LoopFrame (writeVoid order.soId fulfillmentId revertTo shipped) after)
    (hsame : after.salesOrderLines =
      (writeVoid order.soId fulfillmentId revertTo shipped).salesOrderLines) :
    Restores db after order ↔
      SameHeader order (revertedHeader revertTo header) ∧
        ∀ line ∈ linesOf db order.soId,
          line.quantityShipped = 0 ∧ line.status = .ofOrder revertTo := by
  have hheader : after.salesOrders.find? order.soId =
      some (revertedHeader revertTo header) := by
    rw [hframe.salesOrders]
    exact find?_revertHeader hshipped.header
  constructor
  · rintro ⟨⟨restored, hrestored, hfields⟩, hlines⟩
    rw [hheader, Option.some.injEq] at hrestored
    subst hrestored
    refine ⟨hfields, ?_⟩
    intro line hline
    obtain ⟨found, hfound, hstatus, hquantity⟩ := hlines line hline
    obtain ⟨reset, hreset, hresetStatus, hresetQuantity⟩ :=
      find?_writeVoid_line hshipped.lines fulfillmentId revertTo hline
    rw [hsame, hreset, Option.some.injEq] at hfound
    subst hfound
    exact ⟨hquantity.symm.trans hresetQuantity, hstatus.symm.trans hresetStatus⟩
  · rintro ⟨hfields, hlines⟩
    refine ⟨⟨_, hheader, hfields⟩, ?_⟩
    intro line hline
    obtain ⟨hquantity, hstatus⟩ := hlines line hline
    obtain ⟨reset, hreset, hresetStatus, hresetQuantity⟩ :=
      find?_writeVoid_line hshipped.lines fulfillmentId revertTo hline
    rw [hsame]
    exact ⟨reset, hreset, hresetStatus.trans hstatus.symm, hresetQuantity.trans hquantity.symm⟩

theorem emitEvent_salesOrderLines (ctx : RequestContext) (eventType : EventType)
    (aggregateId warehouseId : ℕ) (db : Db) :
    (emitEvent ctx eventType aggregateId warehouseId db).salesOrderLines =
      db.salesOrderLines := by
  unfold emitEvent
  split <;> rfl

/-- A ship is undone by its void when it remembered the status, the header had none
of what the void clears, and the lines were unshipped. -/
theorem voidRestores_iff_of_shipped {db shipped : Db} {order : SalesOrder}
    (hshipped : Shipped db shipped order header fulfillmentId preShipStatus)
    (hkey : header.soId = order.soId) :
    VoidRestores ctx db shipped order fulfillmentId ↔
      preShipStatus = some order.status ∧ SameHeader order (revertedHeader order.status header) ∧
        LinesUnshipped db order := by
  obtain ⟨fulfillment, hfulfillment, hremembers⟩ := Option.map_eq_some_iff.mp hshipped.fulfillment
  have hvoid : ∀ revertTo, Restores db
      (emitEvent ctx .shipVoided header.soId header.warehouseId
        (writeVoid header.soId fulfillmentId revertTo shipped)) order ↔
        SameHeader order (revertedHeader revertTo header) ∧
          ∀ line ∈ linesOf db order.soId,
            line.quantityShipped = 0 ∧ line.status = .ofOrder revertTo := by
    intro revertTo
    rw [hkey]
    exact restores_writeVoid_iff hshipped (loopFrame_emitEvent ..) (emitEvent_salesOrderLines ..)
  constructor
  · rintro ⟨current, found, voided, revertedTo, hcurrent, hfound, hvoided, hrestores⟩
    rw [hshipped.header, Option.some.injEq] at hcurrent
    rw [hfulfillment, Option.some.injEq] at hfound
    subst hcurrent hfound
    simp only [recordVoidShip, bind_eq_ok, orThrow_eq_ok, pure_eq_ok, Prod.mk.injEq] at hvoided
    obtain ⟨revertTo, hremembered, rfl, rfl⟩ := hvoided
    rw [hremembers] at hremembered
    obtain ⟨hfields, hlines⟩ := (hvoid revertTo).mp hrestores
    have hstatus : revertTo = order.status := by
      have hstatus := hfields.status
      unfold revertedHeader at hstatus
      split at hstatus <;> exact hstatus
    subst hstatus
    exact ⟨hremembered, hfields, hlines⟩
  · rintro ⟨hremembered, hfields, hlines⟩
    refine ⟨header, fulfillment, _, order.status, hshipped.header, hfulfillment, ?_,
      (hvoid order.status).mpr ⟨hfields, hlines⟩⟩
    rw [hremembers, hremembered]
    rfl

/-! ## When the void restores -/

/-- The order had none of the shipment columns a void clears. -/
def NoShipment (order : SalesOrder) : Prop :=
  order.carrier = none ∧ order.trackingNumber = none ∧ order.shippedAt = none

/-- What the order and the ship must be like for the void to restore the order. -/
def Reversible (db : Db) (order : SalesOrder) : ShipCall → Prop
  | .record _ shipment =>
      shipment.preShipStatus = some order.status ∧
        (shipment.shipMethod = none ∨ shipment.shipMethod = order.shipMethod) ∧
        NoShipment order ∧ LinesUnshipped db order
  | .admin _ =>
      (if order.status = .soShipped then order.shippedAt ≠ none else NoShipment order) ∧
        LinesUnshipped db order

theorem sameHeader_recorded_iff {order : SalesOrder} {shipment : Shipment}
    (hunshipped : order.status ≠ .soShipped) :
    SameHeader order (revertedHeader order.status (recordedHeader order shipment)) ↔
      (shipment.shipMethod = none ∨ shipment.shipMethod = order.shipMethod) ∧
        NoShipment order := by
  have hmethod : shipment.shipMethod.or order.shipMethod = order.shipMethod ↔
      shipment.shipMethod = none ∨ shipment.shipMethod = order.shipMethod := by
    cases shipment.shipMethod <;> simp
  rw [revertedHeader, if_neg hunshipped, ← hmethod]
  constructor
  · rintro ⟨-, hcarrier, htracking, hshipMethod, hshippedAt⟩
    exact ⟨hshipMethod, hcarrier.symm, htracking.symm, hshippedAt.symm⟩
  · rintro ⟨hshipMethod, hcarrier, htracking, hshippedAt⟩
    exact ⟨rfl, hcarrier.symm, htracking.symm, hshipMethod, hshippedAt.symm⟩

theorem sameHeader_corrected_iff (order : SalesOrder) (now : ℕ) :
    SameHeader order (revertedHeader order.status (correctedHeader order now)) ↔
      if order.status = .soShipped then order.shippedAt ≠ none
      else NoShipment order := by
  unfold revertedHeader
  by_cases hstatus : order.status = .soShipped
  · rw [if_pos hstatus, if_pos hstatus]
    constructor
    · rintro ⟨-, -, -, -, hshippedAt⟩ hnone
      rw [correctedHeader, hnone] at hshippedAt
      cases hshippedAt
    · intro hshippedAt
      obtain ⟨stamp, hstamp⟩ := Option.ne_none_iff_exists'.mp hshippedAt
      refine ⟨rfl, rfl, rfl, rfl, ?_⟩
      simp [correctedHeader, hstamp]
  · rw [if_neg hstatus, if_neg hstatus]
    constructor
    · rintro ⟨-, hcarrier, htracking, -, hshippedAt⟩
      exact ⟨hcarrier.symm, htracking.symm, hshippedAt.symm⟩
    · rintro ⟨hcarrier, htracking, hshippedAt⟩
      exact ⟨rfl, hcarrier.symm, htracking.symm, rfl, hshippedAt.symm⟩

/-- Voiding the fulfillment of a ship restores its order exactly when there was
nothing on the order that the void forgets. -/
theorem void_restores_iff {ctx voidCtx : RequestContext} {db shipped : Db}
    {order : SalesOrder} {call : ShipCall} {fulfillmentId : ℕ}
    (hstored : db.salesOrders.find? call.soId = some order)
    (hchecked : call.Checked db)
    (hshipped : call.serve ctx db = .ok (shipped, fulfillmentId)) :
    VoidRestores voidCtx db shipped order fulfillmentId ↔ Reversible db order call := by
  cases call with
  | record passed shipment =>
      obtain ⟨hpassed, hstatus⟩ := hchecked
      obtain rfl : passed = order := Option.some.inj (hpassed.symm.trans hstored)
      simp only [ShipCall.serve, bind_eq_ok, pure_eq_ok, Prod.mk.injEq] at hshipped
      obtain ⟨_, hrecorded, rfl, rfl⟩ := hshipped
      have hunshipped : passed.status ≠ .soShipped := by
        cases hstatus with
        | inl hpicked => simp [hpicked]
        | inr hpacked => simp [hpacked]
      rw [voidRestores_iff_of_shipped (recordShip_shipped hpassed hrecorded) rfl,
        sameHeader_recorded_iff hunshipped, Reversible, and_assoc]
  | admin request =>
      rw [voidRestores_iff_of_shipped (recordAdminShip_shipped hstored hshipped).1 rfl,
        sameHeader_corrected_iff, Reversible, and_iff_right rfl]

/-! ## Small ships -/

namespace SmallShip

/-- A packed order whose customer chose ground delivery. -/
def order : SalesOrder :=
  { soId := 1
    soNumber := "SO-1"
    status := .soPacked
    warehouseId := 1
    shipMethod := some "GROUND"
    createdAt := 0 }

/-- The small warehouse with the order and its one line of three units. -/
def db : Db :=
  { SmallWarehouse.db with
    salesOrders := Table.empty.insert fun soId => { order with soId := soId }
    salesOrderLines := Table.empty.insert fun soLineId =>
      { soLineId := soLineId
        soId := 1
        itemId := 1
        quantityOrdered := 3
        quantityAllocated := 3
        quantityPicked := 3
        quantityPacked := 3
        lineNumber := 1
        status := .ofOrder .soPacked } }

/-- The ship of the order with the method the dock sends. -/
def ship (shipMethod : Option String) : ShipCall :=
  .record order
    { trackingNumber := some "1Z999"
      carrier := some "UPS"
      shipMethod := shipMethod
      preShipStatus := some .soPacked
      shippedAt := 1 }

/-- The state and the fulfillment after it. -/
def shipped (shipMethod : Option String) : Db × ℕ :=
  match (ship shipMethod).serve (SmallWarehouse.pat 1) db with
  | .ok result => result
  | .error _ => (db, 0)

theorem serve_ship (shipMethod : Option String) :
    (ship shipMethod).serve (SmallWarehouse.pat 1) db =
      .ok ((shipped shipMethod).1, (shipped shipMethod).2) := rfl

theorem checked_ship (shipMethod : Option String) : (ship shipMethod).Checked db :=
  ⟨rfl, Or.inr rfl⟩

theorem linesUnshipped : LinesUnshipped db order := by
  intro line hline
  revert line
  decide

end SmallShip

/-- A ship that sends no method is undone. -/
theorem voidRestores_withoutMethod :
    VoidRestores (SmallWarehouse.pat 2) SmallShip.db (SmallShip.shipped none).1
      SmallShip.order (SmallShip.shipped none).2 :=
  (void_restores_iff rfl (SmallShip.checked_ship none) (SmallShip.serve_ship none)).mpr
    ⟨rfl, Or.inl rfl, ⟨rfl, rfl, rfl⟩, SmallShip.linesUnshipped⟩

/-- A ship by another method leaves that method on the order. -/
theorem not_voidRestores_otherMethod :
    ¬ ∀ (ctx voidCtx : RequestContext) (db shipped : Db) (order : SalesOrder)
      (call : ShipCall) (fulfillmentId : ℕ),
      db.salesOrders.find? call.soId = some order → call.Checked db →
        call.serve ctx db = .ok (shipped, fulfillmentId) →
          VoidRestores voidCtx db shipped order fulfillmentId := by
  intro hall
  obtain ⟨current, fulfillment, voided, revertedTo, hcurrent, hfulfillment, hvoided,
    hrestores⟩ := hall (SmallWarehouse.pat 1) (SmallWarehouse.pat 2) SmallShip.db
      (SmallShip.shipped (some "EXPRESS")).1 SmallShip.order
      (SmallShip.ship (some "EXPRESS")) (SmallShip.shipped (some "EXPRESS")).2 rfl
      (SmallShip.checked_ship _) (SmallShip.serve_ship _)
  cases hcurrent
  cases hfulfillment
  cases hvoided
  obtain ⟨restored, hrestored, hfields⟩ := hrestores.header
  cases hrestored
  have hmethod := hfields.shipMethod
  revert hmethod
  decide

end SentryWms.Fulfillment

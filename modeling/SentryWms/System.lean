import SentryWms.Picking.Complete
import SentryWms.Picking.Wave
import SentryWms.SalesOrders.AdminPick
import SentryWms.SalesOrders.Cancel
import SentryWms.SalesOrders.Edit
import SentryWms.SalesOrders.PartialFulfill
import SentryWms.SalesOrders.Revert

/-!
# The system of requests

One constructor for each modelled request, and the state the database is left in
by it.  Requests are transactions: they are served one after the other, and a
refused one is rolled back.  The one exception is the wave route, which commits
the cancellation of the operator's own stranded batch before it tries again.
-/

namespace SentryWms

open Relational Picking SalesOrders Fulfillment

/-- Stock entering a bin: the inventory effect of receiving. -/
structure StockArrival where
  itemId : ℕ
  binId : ℕ
  warehouseId : ℕ
  quantity : ℤ
  lotNumber : Option String
  quantity_pos : 0 < quantity

inductive Request
  | receiveStock (arrival : StockArrival)
  | createSalesOrder (request : CreateSalesOrderRequest)
  | updateSalesOrder (request : UpdateSalesOrderRequest)
  | pushToQueue (soId : ℕ)
  | addSalesOrderLine (request : AddLineRequest)
  | updateSalesOrderLine (request : UpdateLineRequest)
  | deleteSalesOrderLine (soId soLineId : ℕ)
  | adjustAllocation (request : AdjustAllocationRequest)
  | cancelSalesOrder (soId : ℕ)
  | revertSalesOrderStatus (request : RevertStatusRequest)
  | adminPick (request : AdminPickRequest)
  | partialFulfill (request : PartialFulfillRequest)
  | createBatch (request : CreateBatchRequest)
  | createWave (request : WaveCreateRequest)
  | confirmPick (request : ConfirmPickRequest)
  | shortPick (request : ShortPickRequest)
  | completeBatch (batchId : ℕ)
  | cancelBatch (batchId : ℕ)
  | verifyItem (request : VerifyItemRequest)
  | completePacking (soId : ℕ)
  | fulfill (request : FulfillRequest)
  | adminShip (request : AdminShipRequest)
  | voidShip (soId : ℕ)

/-- A request with the operator and clock it is served under. -/
structure Call where
  ctx : RequestContext
  request : Request

/-- The state an outcome commits; a refusal is rolled back. -/
def committed {Result : Type} (db : Db)
    (outcome : Except ServiceError (Db × Result)) : Db :=
  match outcome with
  | .ok (db', _) => db'
  | .error _ => db

/-- The wave-create route: on a collision with the operator's own untouched
batch, cancel that one and try once more. -/
def createWaveRoute (ctx : RequestContext) (db : Db) (request : WaveCreateRequest) : Db :=
  match waveCreate ctx db request with
  | .ok (created, _) => created
  | .error (.alreadyInBatch _ batchId) =>
      match cancelStaleSelfBatch ctx db batchId with
      | some reverted => committed reverted (waveCreate ctx reverted request)
      | none => db
  | .error _ => db

/-- The state after a request. -/
def serve (db : Db) (call : Call) : Db :=
  let ctx := call.ctx
  match call.request with
  | .receiveStock arrival =>
      Inventory.addInventory ctx.now arrival.itemId arrival.binId
        arrival.warehouseId arrival.quantity arrival.lotNumber db
  | .createSalesOrder request => committed db (createSalesOrder ctx db request)
  | .updateSalesOrder request => committed db (updateSalesOrder ctx db request)
  | .pushToQueue soId => committed db (pushToQueue db soId)
  | .addSalesOrderLine request => committed db (addSalesOrderLine ctx db request)
  | .updateSalesOrderLine request =>
      committed db (updateSalesOrderLine ctx db request)
  | .deleteSalesOrderLine soId soLineId =>
      committed db (deleteSalesOrderLine ctx db soId soLineId)
  | .adjustAllocation request =>
      committed db (adjustSalesOrderLineAllocation ctx db request)
  | .cancelSalesOrder soId => committed db (cancelSalesOrder ctx db soId)
  | .revertSalesOrderStatus request =>
      committed db (revertSalesOrderStatus ctx db request)
  | .adminPick request => committed db (adminPick ctx db request)
  | .partialFulfill request =>
      committed db (partialFulfillSalesOrder ctx db request)
  | .createBatch request => committed db (createPickBatch ctx db request)
  | .createWave request => createWaveRoute ctx db request
  | .confirmPick request => committed db (confirmPick ctx db request)
  | .shortPick request => committed db (shortPick ctx db request)
  | .completeBatch batchId => committed db (completeBatch ctx db batchId)
  | .cancelBatch batchId => committed db (fullRevertBatch ctx db batchId)
  | .verifyItem request => committed db (verifyItem db request)
  | .completePacking soId => committed db (completePacking ctx db soId)
  | .fulfill request => committed db (fulfill ctx db request)
  | .adminShip request => committed db (recordAdminShip ctx db request)
  | .voidShip soId => committed db (voidShip ctx db soId)

/-- What a committed outcome guarantees: it is one of the results the service
may return, or nothing changed. -/
theorem committed_cases {Result : Type} {db : Db}
    {outcome : Except ServiceError (Db × Result)} {holds : Db → Prop}
    (hrefused : holds db)
    (hserved : ∀ db' result, outcome = .ok (db', result) → holds db') :
    holds (committed db outcome) := by
  cases outcome with
  | error refusal => exact hrefused
  | ok served => exact hserved served.1 served.2 rfl

/-! ## A small warehouse -/

namespace SmallWarehouse

/-- One item, two pickable bins and a staging bin that receives, in warehouse 1;
nothing in stock and no orders.  Examples start here. -/
def db : Db :=
  { Db.empty with
    items := Table.empty.insert fun itemId =>
      { itemId := itemId
        sku := "WIDGET"
        itemName := "Widget"
        upc := some "0123" }
    bins := ((Table.empty.insert fun binId =>
        { binId := binId
          warehouseId := 1
          binCode := "A-01"
          binType := .binPickable
          pickSequence := 1 }).insert fun binId =>
        { binId := binId
          warehouseId := 1
          binCode := "A-02"
          binType := .binPickable
          pickSequence := 2 }).insert fun binId =>
        { binId := binId
          warehouseId := 1
          binCode := "DOCK"
          binType := .binStaging }
    defaultReceivingBin := some 3 }

/-- The operator `pat`, an administrator. -/
def pat (now : ℕ) : RequestContext where
  username := "pat"
  isAdmin := true
  hasSoFullEdit := false
  warehouseIds := []
  now := now
  sourceTxnId := now

/-- Keys as the clients mint them. -/
def uuid : ℕ → String
  | 0 => "1d0c47aa-52f1-4a3e-9c55-0b8e6f1a7d20"
  | 1 => "6e2b90f4-8d17-4c6b-b2a9-47c3d5e81f36"
  | _ => "c85f13de-07b2-4e94-8a61-f29d04b7c358"

/-! A quantity is checked where it is written down. -/

theorem positive {quantity : ℤ} (hpos : decide (0 < quantity) = true) : 0 < quantity :=
  of_decide_eq_true hpos

theorem inTask {quantity : ℤ} (hle : decide (quantity ≤ 100000) = true) : quantity ≤ 100000 :=
  of_decide_eq_true hle

theorem inOrder {quantity : ℤ} (hle : decide (quantity ≤ 1000000) = true) : quantity ≤ 1000000 :=
  of_decide_eq_true hle

theorem three_pos : (0 : ℤ) < 3 := by decide

theorem three_inOrder : (3 : ℤ) ≤ 1000000 := by decide

theorem two_pos : (0 : ℤ) < 2 := by decide

theorem two_inOrder : (2 : ℤ) ≤ 1000000 := by decide

def receive (binId : ℕ) (quantity : ℤ) (lotNumber : Option String)
    (hpos : decide (0 < quantity) = true := by exact Eq.refl true) : Request :=
  .receiveStock ⟨1, binId, 1, quantity, lotNumber, positive hpos⟩

/-- A line of an order for the item. -/
def line (quantity : ℤ)
    (hpos : decide (0 < quantity) = true := by exact Eq.refl true)
    (hle : decide (quantity ≤ 1000000) = true := by exact Eq.refl true) : NewLine :=
  ⟨1, quantity, none, positive hpos, inOrder hle⟩

def order (soNumber : String) (lines : List NewLine)
    (hnumber : decide (soNumber ≠ "") = true := by exact Eq.refl true)
    (hlines : lines.isEmpty = false := by exact Eq.refl false) : Request :=
  .createSalesOrder
    ⟨soNumber, none, 1, none, lines, of_decide_eq_true hnumber,
      List.isEmpty_eq_false_iff.mp hlines, by decide⟩

def batch (soIdentifiers : List String) (excludeSoIds : List ℕ)
    (hne : soIdentifiers.isEmpty = false := by exact Eq.refl false) :
    CreateBatchRequest :=
  ⟨soIdentifiers, 1, excludeSoIds, List.isEmpty_eq_false_iff.mp hne, by decide⟩

def wave (soIds excludeSoIds : List ℕ)
    (hne : soIds.isEmpty = false := by exact Eq.refl false) : WaveCreateRequest :=
  ⟨soIds, 1, excludeSoIds, List.isEmpty_eq_false_iff.mp hne, by decide⟩

def confirm (pickTaskId : ℕ) (quantity : ℤ)
    (hpos : decide (0 < quantity) = true := by exact Eq.refl true)
    (hle : decide (quantity ≤ 100000) = true := by exact Eq.refl true) :
    ConfirmPickRequest :=
  ⟨pickTaskId, "0123", quantity, positive hpos, inTask hle⟩

def short (pickTaskId : ℕ) (quantity : ℤ)
    (hnonneg : decide (0 ≤ quantity) = true := by exact Eq.refl true)
    (hle : decide (quantity ≤ 100000) = true := by exact Eq.refl true) :
    ShortPickRequest :=
  ⟨pickTaskId, quantity, of_decide_eq_true hnonneg, inTask hle⟩

/-- `pat`'s calls with the requests, one a clock tick. -/
def calls (requests : List Request) : List Call :=
  (requests.zipIdx 1).map fun (request, now) => ⟨pat now, request⟩

/-- The warehouse after `pat` has sent the requests. -/
def after (requests : List Request) : Db := run serve db (calls requests)

end SmallWarehouse

end SentryWms

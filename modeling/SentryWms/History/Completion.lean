import SentryWms.History.Requests

/-!
# Batch completion over a history

`complete_batch` flips every order of the batch to `PICKED` whatever its status.
As long as every batch that is completed holds open orders only, an order is
picked at most once each time it is open, and the `pick.confirmed` events count
these pickings.
-/

namespace SentryWms.History

open Relational Inventory Picking SalesOrders Fulfillment

/-! ## Statuses and pickings -/

/-- The step moves the order from `OPEN` to `PICKED`. -/
def Picks (soId : ℕ) (db : Db) (call : Call) : Prop :=
  orderStatusOf db soId = some .soOpen ∧ orderStatusOf (serve db call) soId = some .soPicked

instance (soId : ℕ) (db : Db) (call : Call) : Decidable (Picks soId db call) :=
  inferInstanceAs (Decidable (_ ∧ _))

/-- The step moves open work forward, or leaves the order where it is. -/
def MovesForward (soId : ℕ) (db : Db) (call : Call) : Prop :=
  orderStatusOf (serve db call) soId = orderStatusOf db soId ∨ Picks soId db call

instance (soId : ℕ) (db : Db) (call : Call) : Decidable (MovesForward soId db call) :=
  inferInstanceAs (Decidable (_ ∨ _))

/-- The guards of `complete_batch`. -/
def Completable (db : Db) (batchId : ℕ) : Prop :=
  (db.pickBatches.find? batchId).isSome ∧ pendingCount db batchId = 0 ∧
    silentlyShortIn db batchId = []

instance (db : Db) (batchId : ℕ) : Decidable (Completable db batchId) :=
  inferInstanceAs (Decidable (_ ∧ _))

/-- A batch that passes the guards of its completion holds open orders only. -/
def CompletesOpenWork (db : Db) (call : Call) : Prop :=
  match call.request with
  | .completeBatch batchId =>
      Completable db batchId → ∀ order ∈ ordersOf db batchId, order.status = .soOpen
  | _ => True

instance (db : Db) (call : Call) : Decidable (CompletesOpenWork db call) := by
  unfold CompletesOpenWork
  split <;> infer_instance

/-! ## The walk over the orders -/

/-- `pick.confirmed` of the order is already in the outbox for this
transaction. -/
def Confirmed (ctx : RequestContext) (db : Db) (soId : ℕ) : Prop :=
  ∃ event ∈ db.integrationEvents.rows, event.eventType = .pickConfirmed ∧
    event.aggregateId = soId ∧ event.sourceTxnId = ctx.sourceTxnId

theorem orderStatusOf_setOrderStatus (soId : ℕ) (status : SalesOrderStatus) (db : Db) (k : ℕ) :
    orderStatusOf (setOrderStatus soId status db) k =
      if k = soId then (orderStatusOf db k).map fun _ => status
      else orderStatusOf db k := by
  rw [orderStatusOf, setOrderStatus, Table.find?_updateKey]
  split
  · rw [orderStatusOf, Option.map_map, Option.map_map]
    rfl
  · rfl

theorem salesOrders_emitEvent (ctx : RequestContext) (eventType : EventType)
    (aggregateId warehouseId : ℕ) (db : Db) :
    (emitEvent ctx eventType aggregateId warehouseId db).salesOrders =
      db.salesOrders := by
  unfold emitEvent
  split <;> rfl

theorem orderStatusOf_pickOrder (ctx : RequestContext) (db : Db) (order : SalesOrder) (soId : ℕ) :
    orderStatusOf (pickOrder ctx db order) soId =
      if soId = order.soId then (orderStatusOf db soId).map fun _ => .soPicked
      else orderStatusOf db soId := by
  rw [pickOrder, orderStatusOf, salesOrders_emitEvent]
  exact orderStatusOf_setOrderStatus ..

/-- The walk turns the listed orders `PICKED` and no other. -/
theorem orderStatusOf_run_pickOrder (ctx : RequestContext)
    (orders : List SalesOrder) (db : Db) (soId : ℕ) :
    orderStatusOf (run (pickOrder ctx) db orders) soId =
      if soId ∈ orders.map SalesOrder.soId then
        (orderStatusOf db soId).map fun _ => .soPicked
      else orderStatusOf db soId := by
  induction orders generalizing db with
  | nil => rfl
  | cons order rest ih =>
      calc
        orderStatusOf (run (pickOrder ctx) (pickOrder ctx db order) rest) soId =
            if soId ∈ rest.map SalesOrder.soId then
              (orderStatusOf (pickOrder ctx db order) soId).map
                fun _ => .soPicked
            else orderStatusOf (pickOrder ctx db order) soId := ih _
        _ = _ := by
          rw [orderStatusOf_pickOrder]
          by_cases hsame : soId = order.soId
          · simp [hsame, Function.comp_def]
          · simp [hsame]

theorem confirmed_pickOrder (ctx : RequestContext) (db : Db) (order : SalesOrder) :
    Confirmed ctx (pickOrder ctx db order) order.soId := by
  unfold pickOrder emitEvent
  split
  · rename_i hpresent
    obtain ⟨event, hevent, hsame⟩ := List.any_eq_true.mp hpresent
    exact ⟨event, hevent, of_decide_eq_true hsame⟩
  · exact ⟨_, List.mem_append_right _ (List.mem_singleton_self _), rfl, rfl, rfl⟩

theorem confirmedEvents_pickOrder (ctx : RequestContext) (db : Db) (order : SalesOrder) (soId : ℕ) :
    confirmedEvents (pickOrder ctx db order) soId ≤
      confirmedEvents db soId + if soId = order.soId then 1 else 0 :=
  confirmedEvents_emitEvent ctx order.soId order.warehouseId
    (setOrderStatus order.soId .soPicked db) soId

variable {ctx : RequestContext} {db : Db} {batchId : ℕ}

/-- `ON CONFLICT DO NOTHING`: a second emit in the transaction is dropped. -/
theorem pickOrder_of_confirmed {order : SalesOrder} (hconfirmed : Confirmed ctx db order.soId) :
    (pickOrder ctx db order).integrationEvents = db.integrationEvents := by
  obtain ⟨event, hevent, hsame⟩ := hconfirmed
  unfold pickOrder emitEvent
  rw [if_pos]
  · rfl
  · exact List.any_eq_true.mpr ⟨event, hevent, decide_eq_true hsame⟩

theorem Confirmed.pickOrder {soId : ℕ} (hconfirmed : Confirmed ctx db soId)
    (order : SalesOrder) : Confirmed ctx (pickOrder ctx db order) soId := by
  obtain ⟨event, hevent, hsame⟩ := hconfirmed
  unfold Picking.pickOrder emitEvent
  split
  · exact ⟨event, hevent, hsame⟩
  · exact ⟨event, List.mem_append_left _ hevent, hsame⟩

theorem confirmedEvents_run_of_confirmed {soId : ℕ} {orders : List SalesOrder}
    (hconfirmed : Confirmed ctx db soId) :
    confirmedEvents (run (pickOrder ctx) db orders) soId =
      confirmedEvents db soId := by
  induction orders generalizing db with
  | nil => rfl
  | cons order rest ih =>
      refine (ih (hconfirmed.pickOrder order)).trans ?_
      by_cases hsame : soId = order.soId
      · subst hsame
        rw [confirmedEvents, pickOrder_of_confirmed hconfirmed]
        rfl
      · have hle := confirmedEvents_pickOrder ctx db order soId
        rw [if_neg hsame, Nat.add_zero] at hle
        refine le_antisymm hle ?_
        have hsub : List.Sublist db.integrationEvents.rows
            (pickOrder ctx db order).integrationEvents.rows := by
          unfold Picking.pickOrder emitEvent
          split
          · exact List.Sublist.refl _
          · exact List.sublist_append_left _ _
        exact (hsub.filter _).length_le

/-- An order listed twice is confirmed once. -/
theorem confirmedEvents_run_pickOrder (ctx : RequestContext)
    (orders : List SalesOrder) (db : Db) (soId : ℕ) :
    confirmedEvents (run (pickOrder ctx) db orders) soId ≤
      confirmedEvents db soId +
        if soId ∈ orders.map SalesOrder.soId then 1 else 0 := by
  induction orders generalizing db with
  | nil => exact Nat.le_add_right _ _
  | cons order rest ih =>
      have hhead := confirmedEvents_pickOrder ctx db order soId
      by_cases hsame : soId = order.soId
      · subst hsame
        have hrest : confirmedEvents (run (pickOrder ctx)
            (pickOrder ctx db order) rest) order.soId =
              confirmedEvents (pickOrder ctx db order) order.soId :=
          confirmedEvents_run_of_confirmed (confirmed_pickOrder ctx db order)
        have hmem : order.soId ∈ (order :: rest).map SalesOrder.soId := List.mem_cons_self ..
        rw [if_pos hmem]
        rw [if_pos rfl] at hhead
        exact hrest.le.trans hhead
      · have hmem : soId ∈ (order :: rest).map SalesOrder.soId ↔
            soId ∈ rest.map SalesOrder.soId := by
          rw [List.map_cons, List.mem_cons]
          exact or_iff_right hsame
        rw [if_neg hsame, Nat.add_zero] at hhead
        rw [if_congr hmem rfl rfl]
        exact (ih _).trans (Nat.add_le_add_right hhead _)

/-! ## The steps -/

theorem salesOrders_submitPicks (db : Db) (toId : ℕ) (username : String) :
    (TransferOrders.submitPicks db toId username).salesOrders =
      db.salesOrders := by
  unfold TransferOrders.submitPicks
  split
  · rfl
  · split
    · rfl
    · dsimp only
      split <;> rfl

/-- The orders of a batch are stored ones. -/
theorem find?_of_mem_ordersOf {order : SalesOrder} (horder : order ∈ ordersOf db batchId) :
    db.salesOrders.find? order.soId = some order := by
  obtain ⟨soId, -, hfound⟩ := List.mem_filterMap.mp horder
  rwa [Table.find?_key hfound]

/-- What a completion does to an order: the orders of the batch turn `PICKED`,
with one event at most. -/
theorem completeBatch_order {db' : Db} {summary : BatchSummary}
    (hcompleted : completeBatch ctx db batchId = .ok (db', summary)) :
    Completable db batchId ∧ ∀ soId,
      orderStatusOf db' soId =
        (if soId ∈ (ordersOf db batchId).map SalesOrder.soId then
          (orderStatusOf db soId).map fun _ => .soPicked
        else orderStatusOf db soId) ∧
      confirmedEvents db' soId ≤ confirmedEvents db soId +
        if soId ∈ (ordersOf db batchId).map SalesOrder.soId then 1 else 0 := by
  simp only [completeBatch, bind_eq_ok, orThrow_eq_ok, require_eq_ok, pure_eq_ok,
    Prod.mk.injEq] at hcompleted
  obtain ⟨batch, hbatch, -, hpending, -, hshort, rfl, -⟩ := hcompleted
  refine ⟨⟨by rw [hbatch]; rfl, hpending, hshort⟩, fun soId => ?_⟩
  set walked := run (pickOrder ctx) (setBatchStatus batchId .batchCompleted db)
    (ordersOf db batchId) with hwalked
  have horders : (finishBatch ctx db batchId).salesOrders = walked.salesOrders :=
    run_unchanged Db.salesOrders
      (fun state toId => salesOrders_submitPicks state toId ctx.username) _ _
  have hevents : (finishBatch ctx db batchId).integrationEvents =
      walked.integrationEvents :=
    run_unchanged Db.integrationEvents
      (fun state toId => (sameTables_submitPicks state toId ctx.username).events)
      _ _
  constructor
  · rw [orderStatusOf, horders]
    exact orderStatusOf_run_pickOrder ..
  · rw [confirmedEvents, hevents]
    exact confirmedEvents_run_pickOrder ..

theorem completeBatch_picks (hopen : CompletesOpenWork db ⟨ctx, .completeBatch batchId⟩)
    (soId : ℕ) :
    MovesForward soId db ⟨ctx, .completeBatch batchId⟩ ∧
      confirmedEvents (serve db ⟨ctx, .completeBatch batchId⟩) soId ≤
        confirmedEvents db soId +
          if Picks soId db ⟨ctx, .completeBatch batchId⟩ then 1 else 0 := by
  cases hcompleted : completeBatch ctx db batchId with
  | error refusal =>
      have hsame : serve db ⟨ctx, .completeBatch batchId⟩ = db := by
        simp only [serve, hcompleted, committed]
      rw [MovesForward, hsame]
      exact ⟨Or.inl rfl, Nat.le_add_right _ _⟩
  | ok served =>
      obtain ⟨db', summary⟩ := served
      have hafter : serve db ⟨ctx, .completeBatch batchId⟩ = db' := by
        simp only [serve, hcompleted, committed]
      obtain ⟨hguards, horder⟩ := completeBatch_order hcompleted
      obtain ⟨hstatus, hevents⟩ := horder soId
      by_cases hlisted : soId ∈ (ordersOf db batchId).map SalesOrder.soId
      · obtain ⟨order, hmem, rfl⟩ := List.mem_map.mp hlisted
        have hbefore : orderStatusOf db order.soId = some .soOpen := by
          rw [orderStatusOf, find?_of_mem_ordersOf hmem, Option.map_some, hopen hguards order hmem]
        have hpicks : Picks order.soId db ⟨ctx, .completeBatch batchId⟩ := by
          refine ⟨hbefore, ?_⟩
          rw [hafter, hstatus, if_pos hlisted, hbefore]
          rfl
        rw [if_pos hlisted] at hevents
        rw [if_pos hpicks, hafter]
        exact ⟨Or.inr hpicks, hevents⟩
      · rw [if_neg hlisted] at hstatus hevents
        rw [MovesForward, hafter]
        exact ⟨Or.inl hstatus, hevents.trans (Nat.le_add_right _ _)⟩

theorem shortPick_events {db' : Db} {request : ShortPickRequest} {settled : SettledTask}
    (hserved : shortPick ctx db request = .ok (db', settled)) :
    db'.integrationEvents = db.integrationEvents := by
  obtain ⟨task, -, -, -, rfl⟩ := shortPick_ok hserved
  unfold shortTask creditShorted
  split
  · exact (sameTables_updateLine ..).events
  · exact run_unchanged Db.integrationEvents
      (fun state give => (creditGive_frame state give).2.2) _ _

/-- Only an open order is promoted. -/
theorem maybePromote_cases (ctx : RequestContext) (db : Db) (soId : ℕ) :
    maybePromoteSoToPicked ctx db soId = db ∨
      ∃ order, db.salesOrders.find? soId = some order ∧ order.status = .soOpen ∧
        maybePromoteSoToPicked ctx db soId = emitEvent ctx .pickConfirmed soId
          order.warehouseId (setOrderStatus soId .soPicked db) := by
  unfold maybePromoteSoToPicked
  split
  · exact Or.inl rfl
  · cases hfound : db.salesOrders.find? soId with
    | none => exact Or.inl rfl
    | some order =>
        by_cases hopen : order.status = .soOpen
        · exact Or.inr ⟨order, rfl, hopen, if_pos hopen⟩
        · exact Or.inl (if_neg hopen)

/-- The promotion of an admin-picked order emits only where it flips an open
order. -/
theorem maybePromote_events (ctx : RequestContext) (db : Db) (promoted soId : ℕ) :
    confirmedEvents (maybePromoteSoToPicked ctx db promoted) soId ≤
      confirmedEvents db soId +
        if orderStatusOf db soId = some .soOpen ∧
          orderStatusOf (maybePromoteSoToPicked ctx db promoted) soId =
            some .soPicked then 1 else 0 := by
  cases maybePromote_cases ctx db promoted with
  | inl hsame =>
      simp only [hsame]
      exact Nat.le_add_right _ _
  | inr hflipped =>
      obtain ⟨order, hfound, hopen, hafter⟩ := hflipped
      simp only [hafter]
      refine (confirmedEvents_emitEvent ctx promoted order.warehouseId
        (setOrderStatus promoted .soPicked db) soId).trans ?_
      by_cases hsame : soId = promoted
      · subst hsame
        have hbefore : orderStatusOf db soId = some .soOpen := by
          rw [orderStatusOf, hfound, Option.map_some, hopen]
        have hpicked : orderStatusOf (emitEvent ctx .pickConfirmed soId
            order.warehouseId (setOrderStatus soId .soPicked db)) soId =
              some .soPicked := by
          rw [orderStatusOf, salesOrders_emitEvent]
          refine (orderStatusOf_setOrderStatus ..).trans ?_
          rw [if_pos rfl, hbefore]
          rfl
        rw [if_pos rfl, if_pos ⟨hbefore, hpicked⟩]
        exact le_rfl
      · rw [if_neg hsame]
        exact Nat.le_add_right _ _

/-- Every request emits at most one `pick.confirmed` for an order, and only when
it picks it. -/
theorem confirmedEvents_serve (soId : ℕ) (db : Db) (call : Call)
    (hopen : CompletesOpenWork db call) :
    confirmedEvents (serve db call) soId ≤
      confirmedEvents db soId + if Picks soId db call then 1 else 0 := by
  obtain ⟨ctx, request⟩ := call
  by_cases hmarks : marks request = false
  · exact ((silent_serve hmarks db).events soId).le.trans (Nat.le_add_right _ _)
  · cases request with
    | shortPick request =>
        have hsame : confirmedEvents (serve db ⟨ctx, .shortPick request⟩) soId =
            confirmedEvents db soId :=
          @committed_cases _ _ _
            (fun state => confirmedEvents state soId = confirmedEvents db soId)
            rfl fun db' settled hserved => by
              rw [confirmedEvents, shortPick_events hserved]
              rfl
        exact hsame.le.trans (Nat.le_add_right _ _)
    | completeBatch batchId => exact (completeBatch_picks hopen soId).2
    | adminPick request =>
        cases hpicked : adminPick ctx db request with
        | error refusal =>
            have hsame : serve db ⟨ctx, .adminPick request⟩ = db := by
              simp only [serve, hpicked, committed]
            rw [hsame]
            exact Nat.le_add_right _ _
        | ok served =>
            obtain ⟨db', batchId⟩ := served
            have hafter : serve db ⟨ctx, .adminPick request⟩ = db' := by
              simp only [serve, hpicked, committed]
            obtain ⟨⟨applied, id⟩, hrecorded, hfinal⟩ := bind_eq_ok.mp hpicked
            rw [pure_eq_ok, Prod.mk.injEq] at hfinal
            obtain ⟨hpromoted, -⟩ := hfinal
            obtain ⟨hsilent, horders⟩ := silent_recordAdminPick hrecorded
            have hle := maybePromote_events ctx applied request.soId soId
            have hstatus : orderStatusOf applied soId = orderStatusOf db soId := by
              rw [orderStatusOf, horders]
              rfl
            rw [hsilent.events, hstatus, hpromoted] at hle
            have hpicks : Picks soId db ⟨ctx, .adminPick request⟩ ↔
                orderStatusOf db soId = some .soOpen ∧
                  orderStatusOf db' soId = some .soPicked := by
              rw [Picks, hafter]
            rw [if_congr hpicks rfl rfl, hafter]
            exact hle
    | _ => exact absurd rfl hmarks

/-! ## Runs -/

/-- Along a history in which every completed batch holds open orders only, every
completion leaves each order where it is or turns it from `OPEN` to `PICKED`, and
an order has no more `pick.confirmed` events than it was picked times. -/
theorem completion_movesForward {db : Db} {calls : List Call}
    (hopen : Along serve CompletesOpenWork db calls) :
    (∀ front ctx batchId back, calls = front ++ ⟨ctx, .completeBatch batchId⟩ :: back →
      ∀ soId, MovesForward soId (run serve db front) ⟨ctx, .completeBatch batchId⟩) ∧
    ∀ soId, confirmedEvents (run serve db calls) soId ≤
      confirmedEvents db soId + tally serve (Picks soId) db calls := by
  constructor
  · intro front ctx batchId back hcalls soId
    rw [hcalls, along_append] at hopen
    exact (completeBatch_picks hopen.2.1 soId).1
  · intro soId
    exact le_tally (fun state => confirmedEvents state soId)
      (fun state call => confirmedEvents_serve soId state call) hopen

/-- An order for three, picked, its batch completed, then scanned at the pack
station and packed. -/
def packedOrder : List Request :=
  [SmallWarehouse.receive 1 5 none, SmallWarehouse.order "S1" [SmallWarehouse.line 3],
    .createBatch (SmallWarehouse.batch ["S1"] []),
    .confirmPick (SmallWarehouse.confirm 1 3),
    .completeBatch 1,
    .verifyItem ⟨1, "0123", 3, by decide⟩,
    .completePacking 1]

theorem completion_movesForward_packed :
    (∀ front ctx batchId back,
      SmallWarehouse.calls packedOrder = front ++ ⟨ctx, .completeBatch batchId⟩ :: back →
      ∀ soId, MovesForward soId (run serve SmallWarehouse.db front) ⟨ctx, .completeBatch batchId⟩) ∧
    ∀ soId, confirmedEvents (SmallWarehouse.after packedOrder) soId ≤
      confirmedEvents SmallWarehouse.db soId +
        tally serve (Picks soId) SmallWarehouse.db
          (SmallWarehouse.calls packedOrder) :=
  completion_movesForward (by decide)

/-- Completing the batch once more takes the packed order back to `PICKED` and
emits a second `pick.confirmed` for its one picking. -/
theorem completeBatch_reopens_packed :
    orderStatusOf (SmallWarehouse.after packedOrder) 1 = some .soPacked ∧
    ¬ MovesForward 1 (SmallWarehouse.after packedOrder) ⟨SmallWarehouse.pat 8, .completeBatch 1⟩ ∧
    tally serve (Picks 1) SmallWarehouse.db
      (SmallWarehouse.calls (packedOrder ++ [.completeBatch 1])) = 1 ∧
    confirmedEvents
      (SmallWarehouse.after (packedOrder ++ [.completeBatch 1])) 1 = 2 := by
  decide

end SentryWms.History

import SentryWms.Receiving.Receipts
import SentryWms.System

/-!
# The backorders that stock releases

`release_satisfiable_backorders` consumes nothing.  Every waiting backorder is compared,
line by line, with all that the warehouse can pick at the call, so what one of them is
released for is not kept from the next one.
-/

namespace SentryWms.Receiving

open Relational Inventory

/-! ## What a call releases -/

/-- The waiting orders that are open afterwards. -/
def releasedBetween (before after : Db) : List SalesOrder :=
  before.salesOrders.select fun order =>
    order.status = .soWaitingStock ∧
      (after.salesOrders.find? order.soId).any fun row => row.status = .soOpen

/-- The units of an item on the lines of some orders. -/
def unitsOrdered (db : Db) (orders : List SalesOrder) (itemId : ℕ) : ℤ :=
  (orders.map fun order =>
    (((linesOf db order.soId).filter fun line => line.itemId = itemId).map
      SalesOrderLine.quantityOrdered).sum).sum

/-- The released orders of each warehouse can be filled together from its stock. -/
def FilledTogether (before after : Db) : Prop :=
  ∀ itemId warehouseId : ℕ,
    unitsOrdered before
        ((releasedBetween before after).filter fun order => order.warehouseId = warehouseId)
        itemId ≤
      satisfiableUnits before itemId warehouseId

/-- Each line of the order alone is within the stock. -/
def EachLineCovered (db : Db) (warehouseId soId : ℕ) : Prop :=
  ∀ line ∈ linesOf db soId, line.quantityOrdered ≤ satisfiableUnits db line.itemId warehouseId

theorem satisfiable_iff (db : Db) (warehouseId soId : ℕ) :
    satisfiable db warehouseId soId = true ↔ EachLineCovered db warehouseId soId := by
  simp only [satisfiable, List.all_eq_true, decide_eq_true_eq, EachLineCovered]

theorem openedBefore_total (left right : SalesOrder) :
    openedBefore left right ∨ openedBefore right left := by
  unfold openedBefore
  cases left.backorderOpenedAt <;> cases right.backorderOpenedAt <;>
    simp [Nat.le_total]

theorem openedBefore_trans {left middle right : SalesOrder}
    (hfirst : openedBefore left middle) (hsecond : openedBefore middle right) :
    openedBefore left right := by
  unfold openedBefore at *
  cases hleft : left.backorderOpenedAt <;> cases hmiddle : middle.backorderOpenedAt <;>
    cases hright : right.backorderOpenedAt <;> simp_all
  exact hfirst.trans hsecond

/-- The walk considers the oldest backorder first. -/
theorem waitingBackorders_sorted (db : Db) (warehouseId itemId : ℕ) :
    (waitingBackorders db warehouseId itemId).Pairwise openedBefore := by
  have : Std.Total openedBefore := ⟨openedBefore_total⟩
  have : IsTrans SalesOrder openedBefore := ⟨fun _ _ _ => openedBefore_trans⟩
  exact List.pairwise_insertionSort _ _

theorem mem_waitingBackorders {db : Db} {warehouseId itemId : ℕ} {order : SalesOrder} :
    order ∈ waitingBackorders db warehouseId itemId ↔
      order ∈ db.salesOrders.rows ∧ order.status = .soWaitingStock ∧
        order.warehouseId = warehouseId ∧
        ∃ line ∈ linesOf db order.soId, line.itemId = itemId := by
  simp [waitingBackorders, mem_orderBy, Table.select, List.mem_filter]

/-! ## The walk -/

/-- What a comparison reads. -/
structure SameShelves (before after : Db) : Prop where
  inventory : after.inventory = before.inventory
  bins : after.bins = before.bins
  salesOrderLines : after.salesOrderLines = before.salesOrderLines

theorem SameShelves.refl (db : Db) : SameShelves db db := ⟨rfl, rfl, rfl⟩

theorem SameShelves.satisfiable {before after : Db} (hsame : SameShelves before after)
    (warehouseId soId : ℕ) :
    satisfiable after warehouseId soId = satisfiable before warehouseId soId := by
  have hpickable : ∀ row, inPickableBin after row = inPickableBin before row := by
    intro row
    rw [inPickableBin, inPickableBin, binOf?, binOf?, hsame.bins]
  have hunits : ∀ itemId, satisfiableUnits after itemId warehouseId =
      satisfiableUnits before itemId warehouseId := by
    intro itemId
    rw [satisfiableUnits, satisfiableUnits, hsame.inventory]
    apply Table.sum_congr
    intro row _
    simp only [hpickable]
  simp only [Receiving.satisfiable, linesOf, hsame.salesOrderLines, hunits]

section Walk

variable {ctx : RequestContext} {warehouseId : ℕ}

theorem emitEvent_salesOrders (eventType : EventType) (aggregateId : ℕ) (db : Db) :
    (emitEvent ctx eventType aggregateId warehouseId db).salesOrders = db.salesOrders := by
  rw [emitEvent]
  split <;> rfl

theorem SameShelves.releaseBackorder {before db : Db} (hsame : SameShelves before db)
    (order : SalesOrder) :
    SameShelves before (releaseBackorder ctx warehouseId db order) := by
  rw [Receiving.releaseBackorder]
  split
  · rw [emitEvent]
    split <;> exact ⟨hsame.inventory, hsame.bins, hsame.salesOrderLines⟩
  · exact hsame

/-- What the walk leaves of an order: open, if the walk meets it and covers its lines. -/
theorem releaseWalk_find? {before db : Db} (hsame : SameShelves before db)
    (orders : List SalesOrder) (soId : ℕ) :
    (run (releaseBackorder ctx warehouseId) db orders).salesOrders.find? soId =
      (db.salesOrders.find? soId).map fun row =>
        if soId ∈ orders.map SalesOrder.soId ∧ satisfiable before warehouseId soId then
          { row with status := .soOpen }
        else row := by
  induction orders generalizing db with
  | nil => simp [run]
  | cons order rest ih =>
      refine (ih (hsame.releaseBackorder order)).trans ?_
      rw [releaseBackorder, hsame.satisfiable]
      by_cases hcovered : satisfiable before warehouseId order.soId
      · rw [if_pos hcovered, emitEvent_salesOrders, setOrderStatus, Table.find?_updateKey]
        by_cases hsoId : soId = order.soId
        · subst hsoId
          rw [if_pos rfl, Option.map_map]
          congr 1
          funext row
          simp [hcovered]
        · simp [hsoId]
      · rw [if_neg hcovered]
        congr 1
        funext row
        by_cases hsoId : soId = order.soId
        · simp [hsoId, hcovered]
        · simp [hsoId]

/-- The walk tells of the orders it releases, in the order it meets them. -/
theorem releaseWalk_events {before db : Db} (hsame : SameShelves before db)
    (orders : List SalesOrder) :
    ∃ told : List SalesOrder,
      (run (releaseBackorder ctx warehouseId) db orders).integrationEvents.rows.map
          IntegrationEvent.aggregateId =
        db.integrationEvents.rows.map IntegrationEvent.aggregateId ++
          told.map SalesOrder.soId ∧
      told.Sublist (orders.filter fun order => satisfiable before warehouseId order.soId) := by
  induction orders generalizing db with
  | nil => exact ⟨[], by simp [run], List.Sublist.refl _⟩
  | cons order rest ih =>
      have hnext : SameShelves before (releaseBackorder ctx warehouseId db order) :=
        hsame.releaseBackorder order
      obtain ⟨told, htold, hsublist⟩ := ih hnext
      by_cases hcovered : satisfiable before warehouseId order.soId
      · have hhead : (releaseBackorder ctx warehouseId db order).integrationEvents.rows.map
              IntegrationEvent.aggregateId =
              db.integrationEvents.rows.map IntegrationEvent.aggregateId ∨
            (releaseBackorder ctx warehouseId db order).integrationEvents.rows.map
              IntegrationEvent.aggregateId =
              db.integrationEvents.rows.map IntegrationEvent.aggregateId ++
                [order.soId] := by
          rw [releaseBackorder, hsame.satisfiable, if_pos hcovered, emitEvent]
          split
          · exact Or.inl rfl
          · right
            simp [Table.insert, setOrderStatus]
        simp only [List.filter_cons, hcovered, if_true]
        rcases hhead with hsilent | hnew
        · exact ⟨told, htold.trans (by rw [hsilent]), hsublist.cons _⟩
        · refine ⟨order :: told, htold.trans ?_, hsublist.cons_cons _⟩
          rw [hnew, List.append_assoc, List.singleton_append, List.map_cons]
      · simp only [List.filter_cons, hcovered]
        refine ⟨told, htold.trans ?_, hsublist⟩
        rw [releaseBackorder, hsame.satisfiable, if_neg hcovered]

theorem SameShelves.releaseWalk {before db : Db} (hsame : SameShelves before db)
    (orders : List SalesOrder) :
    SameShelves before (run (Receiving.releaseBackorder ctx warehouseId) db orders) := by
  induction orders generalizing db with
  | nil => exact hsame
  | cons order rest ih => exact ih (hsame.releaseBackorder order)

end Walk

/-! ## The whole call -/

/-- An order is released exactly when it waits for the item and each of its lines alone
is within the stock. -/
theorem mem_releasedBetween (ctx : RequestContext) (warehouseId itemId : ℕ) (db : Db)
    (order : SalesOrder) :
    order ∈ releasedBetween db (releaseSatisfiableBackorders ctx warehouseId itemId db) ↔
      order ∈ waitingBackorders db warehouseId itemId ∧
        EachLineCovered db warehouseId order.soId := by
  have hwalk := @releaseWalk_find? ctx warehouseId db db (SameShelves.refl db)
    (waitingBackorders db warehouseId itemId)
  rw [← satisfiable_iff, releasedBetween, Table.select, List.mem_filter]
  constructor
  · rintro ⟨hrow, hreleased⟩
    simp only [decide_eq_true_eq] at hreleased
    obtain ⟨hwaiting, hopen⟩ := hreleased
    have hstored := Table.find?_eq_some_iff.mpr ⟨hrow, rfl⟩
    rw [releaseSatisfiableBackorders, hwalk, hstored, Option.map_some, Option.any_some,
      decide_eq_true_eq] at hopen
    by_cases hmet : order.soId ∈
        (waitingBackorders db warehouseId itemId).map SalesOrder.soId ∧
          satisfiable db warehouseId order.soId
    · obtain ⟨other, hother, hsoId⟩ := List.mem_map.mp hmet.1
      have hsame := List.inj_on_of_nodup_map db.salesOrders.keys_nodup
        (mem_waitingBackorders.mp hother).1 hrow hsoId
      exact ⟨hsame ▸ hother, hmet.2⟩
    · rw [if_neg hmet, hwaiting] at hopen
      cases hopen
  · rintro ⟨hwaiting, hcovered⟩
    obtain ⟨hrow, hstatus, -⟩ := mem_waitingBackorders.mp hwaiting
    have hstored := Table.find?_eq_some_iff.mpr ⟨hrow, rfl⟩
    refine ⟨hrow, ?_⟩
    rw [releaseSatisfiableBackorders, hwalk, hstored, Option.map_some, Option.any_some,
      if_pos ⟨List.mem_map_of_mem hwaiting, hcovered⟩]
    simp [hstatus]

/-- The order alone fits the stock: what its lines order of each item together is within
it. -/
def FitsAlone (db : Db) (warehouseId : ℕ) (order : SalesOrder) : Prop :=
  ∀ itemId, unitsOrdered db [order] itemId ≤ satisfiableUnits db itemId warehouseId

/-- No two lines of the order are for one item. -/
def OneLineEach (db : Db) (soId : ℕ) : Prop :=
  ((linesOf db soId).map SalesOrderLine.itemId).Nodup

theorem satisfiableUnits_nonneg (db : Db) (itemId warehouseId : ℕ) :
    0 ≤ satisfiableUnits db itemId warehouseId := by
  apply Table.sum_nonneg
  intro row _
  split
  · exact le_max_right _ _
  · exact le_rfl

theorem unitsOrdered_single (db : Db) (order : SalesOrder) (itemId : ℕ) :
    unitsOrdered db [order] itemId =
      (((linesOf db order.soId).filter fun line => line.itemId = itemId).map
        SalesOrderLine.quantityOrdered).sum := by
  simp [unitsOrdered]

/-- The one line for an item holds all that is ordered of it. -/
theorem sum_sameItem {lines : List SalesOrderLine} {line : SalesOrderLine}
    (hdistinct : (lines.map SalesOrderLine.itemId).Nodup) (hline : line ∈ lines) :
    ((lines.filter fun other => other.itemId = line.itemId).map
      SalesOrderLine.quantityOrdered).sum = line.quantityOrdered := by
  have hone : (lines.filter fun other => other.itemId = line.itemId) = [line] := by
    apply List.perm_singleton.mp
    apply (List.perm_ext_iff_of_nodup ((List.Nodup.of_map _ hdistinct).filter _)
      (List.nodup_singleton line)).mpr
    intro other
    rw [List.mem_filter, List.mem_singleton]
    constructor
    · rintro ⟨hmem, hitem⟩
      exact List.inj_on_of_nodup_map hdistinct hmem hline (of_decide_eq_true hitem)
    · rintro rfl
      exact ⟨hline, by simp⟩
  rw [hone, List.map_singleton, List.sum_singleton]

/-- Where no two lines are for one item, the lines are covered one by one exactly when
the order fits alone. -/
theorem eachLineCovered_iff_fitsAlone {db : Db} {warehouseId : ℕ} {order : SalesOrder}
    (hdistinct : OneLineEach db order.soId) :
    EachLineCovered db warehouseId order.soId ↔ FitsAlone db warehouseId order := by
  constructor
  · intro hcovered itemId
    rw [unitsOrdered_single]
    by_cases hitem : ∃ line ∈ linesOf db order.soId, line.itemId = itemId
    · obtain ⟨line, hline, rfl⟩ := hitem
      rw [sum_sameItem hdistinct hline]
      exact hcovered line hline
    · have hnone : ((linesOf db order.soId).filter fun line => line.itemId = itemId) = [] := by
        apply List.filter_eq_nil_iff.mpr
        intro line hline hsame
        exact hitem ⟨line, hline, of_decide_eq_true hsame⟩
      rw [hnone]
      exact satisfiableUnits_nonneg db itemId warehouseId
  · intro hfits line hline
    have hunits := hfits line.itemId
    rwa [unitsOrdered_single, sum_sameItem hdistinct hline] at hunits

/-- An order that fits alone has every line covered. -/
theorem FitsAlone.eachLineCovered {db : Db} {warehouseId : ℕ} {order : SalesOrder}
    (hfits : FitsAlone db warehouseId order)
    (hunits : ∀ line ∈ linesOf db order.soId, 0 ≤ line.quantityOrdered) :
    EachLineCovered db warehouseId order.soId := by
  intro line hline
  refine le_trans ?_ (hfits line.itemId)
  rw [unitsOrdered_single]
  apply List.single_le_sum
  · intro quantity hquantity
    obtain ⟨other, hother, rfl⟩ := List.mem_map.mp hquantity
    exact hunits other (List.mem_filter.mp hother).1
  · exact List.mem_map_of_mem (List.mem_filter.mpr ⟨hline, by simp⟩)

/-- A call considers the waiting orders oldest first, each against the whole stock.  It
skips only orders that do not fit alone; an order without two lines for one item is
released exactly when it fits alone.  The stock stays as it was, and the events tell of
released orders, oldest first. -/
theorem releaseSatisfiableBackorders_each (ctx : RequestContext)
    (warehouseId itemId : ℕ) (db : Db) :
    let after := releaseSatisfiableBackorders ctx warehouseId itemId db
    (∀ order ∈ releasedBetween db after, order ∈ waitingBackorders db warehouseId itemId) ∧
      (∀ order ∈ waitingBackorders db warehouseId itemId, OneLineEach db order.soId →
        (order ∈ releasedBetween db after ↔ FitsAlone db warehouseId order)) ∧
      (∀ order ∈ waitingBackorders db warehouseId itemId,
        (∀ line ∈ linesOf db order.soId, 0 ≤ line.quantityOrdered) →
        FitsAlone db warehouseId order → order ∈ releasedBetween db after) ∧
      (waitingBackorders db warehouseId itemId).Pairwise openedBefore ∧
      (∃ told : List SalesOrder,
        after.integrationEvents.rows.map IntegrationEvent.aggregateId =
          db.integrationEvents.rows.map IntegrationEvent.aggregateId ++
            told.map SalesOrder.soId ∧
        told.Sublist (waitingBackorders db warehouseId itemId) ∧
        ∀ order ∈ told, order ∈ releasedBetween db after) ∧
      SameShelves db after := by
  intro after
  have hreleased := mem_releasedBetween ctx warehouseId itemId db
  refine ⟨fun order horder => ((hreleased order).mp horder).1, ?_, ?_,
    waitingBackorders_sorted db warehouseId itemId, ?_, ?_⟩
  · intro order hwaiting hdistinct
    rw [hreleased, eachLineCovered_iff_fitsAlone hdistinct]
    exact and_iff_right hwaiting
  · intro order hwaiting hunits hfits
    exact (hreleased order).mpr ⟨hwaiting, hfits.eachLineCovered hunits⟩
  · obtain ⟨told, hevents, hsublist⟩ := @releaseWalk_events ctx warehouseId _ _
      (SameShelves.refl db) (waitingBackorders db warehouseId itemId)
    refine ⟨told, hevents, hsublist.trans List.filter_sublist, ?_⟩
    intro order horder
    obtain ⟨hwaiting, hcovered⟩ := List.mem_filter.mp (hsublist.subset horder)
    exact (hreleased order).mpr ⟨hwaiting, (satisfiable_iff db warehouseId _).mp hcovered⟩
  · exact (SameShelves.refl db).releaseWalk _

/-! ## Two backorders for the same units -/

namespace SmallBacklog

/-- A backorder of the small warehouse. -/
def waiting (soNumber : String) (openedAt soId : ℕ) : SalesOrder where
  soId := soId
  soNumber := soNumber
  status := .soWaitingStock
  warehouseId := 1
  orderType := .backorder
  createdAt := openedAt
  backorderOpenedAt := some openedAt

/-- Five units of the item, ordered by nobody else. -/
def lineOf (soId soLineId : ℕ) : SalesOrderLine where
  soLineId := soLineId
  soId := soId
  itemId := 1
  quantityOrdered := 5
  lineNumber := 1

/-- Five units on the shelf, and two backorders that wait for five each. -/
def db : Db :=
  { SmallWarehouse.db with
    inventory := Table.empty.insert fun inventoryId =>
      { inventoryId := inventoryId
        itemId := 1
        binId := 1
        warehouseId := 1
        quantityOnHand := 5
        updatedAt := 0 }
    salesOrders := (Table.empty.insert (waiting "SO-1-BO" 1)).insert (waiting "SO-2-BO" 2)
    salesOrderLines := (Table.empty.insert (lineOf 1)).insert (lineOf 2) }

end SmallBacklog

/-- Five units release both backorders of five. -/
theorem releases_both :
    ¬ FilledTogether SmallBacklog.db
      (releaseSatisfiableBackorders (SmallWarehouse.pat 3) 1 1 SmallBacklog.db) := by
  intro htogether
  exact absurd (htogether 1 1) (by decide +kernel)

end SentryWms.Receiving

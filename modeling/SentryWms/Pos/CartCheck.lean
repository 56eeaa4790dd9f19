import SentryWms.Pos.RefundLedger
import SentryWms.Relational.Withdrawals

/-!
# The cart check

Before the card is charged the register asks whether its cart can be sold.  The check
looks at each line alone, against everything on hand at its bin; the checkout then takes
the lines one after another, each from the first row of its bin.
-/

namespace SentryWms.Pos

open Relational Inventory SalesOrders

/-! ## Classifying a line -/

/-- The reasons of `_classify_line`, in their order of precedence. -/
inductive ConflictReason
  | skuNotFound
  | itemInactive
  | warehouseNotFound
  | warehouseNotInScope
  | binNotFound
  | insufficientStock
  deriving DecidableEq, Repr

/-- `SUM(inv.quantity_on_hand - inv.quantity_allocated)` over every row of a place. -/
def availableAt (db : Db) (place : Place) : ℤ :=
  ((db.inventory.select fun row => row.place = place).map InventoryRow.available).sum

/-- `_classify_line`, with the row the bulk query gives it. -/
def classifyLine (ctx : RequestContext) (db : Db) (line : PosLine) :
    Option (ConflictReason × Option ℤ) :=
  match itemBySku? db line.sku with
  | none => some (.skuNotFound, none)
  | some item =>
      if item.isActive = false then some (.itemInactive, none)
      else
        match warehouseByCode? db line.warehouseCode with
        | none => some (.warehouseNotFound, none)
        | some warehouse =>
            if warehouse.warehouseId ∉ ctx.warehouseIds then
              some (.warehouseNotInScope, none)
            else
              match binByCode? db warehouse.warehouseId line.binCode with
              | none => some (.binNotFound, none)
              | some bin =>
                  let available := availableAt db ⟨item.itemId, bin.binId, warehouse.warehouseId⟩
                  if available < line.quantity then
                    some (.insufficientStock, some available)
                  else none

/-- An entry of `conflicts`. -/
structure CartConflict where
  lineIndex : ℕ
  sku : String
  warehouseId : String
  binId : String
  requestedQty : ℤ
  reason : ConflictReason
  availableQty : Option ℤ
  deriving DecidableEq, Repr

/-- `validate_cart`: the conflicts of a cart; an empty list is its `valid: true`. -/
def validateCart (ctx : RequestContext) (db : Db) (lines : List PosLine) : List CartConflict :=
  lines.zipIdx.filterMap fun numbered =>
    (classifyLine ctx db numbered.1).map fun conflict =>
      { lineIndex := numbered.2
        sku := numbered.1.sku
        warehouseId := numbered.1.warehouseCode
        binId := numbered.1.binCode
        requestedQty := numbered.1.quantity
        reason := conflict.1
        availableQty := conflict.2 }

variable {ctx : RequestContext} {db : Db} {code message : String} {line : Located}
  {isPhoneOrder : Bool} {soId : ℕ} {body : CheckoutBody}

/-- What a line without a conflict resolves to. -/
theorem classifyLine_none {line : PosLine} (hnone : classifyLine ctx db line = none) :
    inTokenScope ctx db line = true ∧ sellable db line = true ∧
      ∀ idx, (locate? db (line, idx)).isSome := by
  unfold classifyLine at hnone
  unfold inTokenScope sellable locate?
  cases hitem : itemBySku? db line.sku with
  | none =>
      rw [hitem] at hnone
      cases hnone
  | some item =>
      cases hwarehouse : warehouseByCode? db line.warehouseCode with
      | none =>
          simp only [hitem, hwarehouse] at hnone
          by_cases hactive : item.isActive = false <;> simp [hactive] at hnone
      | some warehouse =>
          simp only [hitem, hwarehouse] at hnone
          by_cases hactive : item.isActive = false
          · simp [hactive] at hnone
          · rw [if_neg hactive] at hnone
            by_cases hscope : warehouse.warehouseId ∉ ctx.warehouseIds
            · simp [hscope] at hnone
            · rw [if_neg hscope] at hnone
              cases hbin : binByCode? db warehouse.warehouseId line.binCode with
              | none => simp [hbin] at hnone
              | some bin =>
                  exact ⟨by simpa using hscope, by simpa using hactive, fun _ => by
                    simp [hitem, hwarehouse, hbin]⟩

theorem validateCart_nil {lines : List PosLine} :
    validateCart ctx db lines = [] ↔
      ∀ line ∈ lines, classifyLine ctx db line = none := by
  rw [validateCart, List.filterMap_eq_nil_iff]
  constructor
  · intro hnone line hline
    rw [← List.zipIdx_map_fst 0 lines] at hline
    obtain ⟨numbered, hnumbered, rfl⟩ := List.mem_map.mp hline
    exact Option.map_eq_none_iff.mp (hnone numbered hnumbered)
  · intro hnone numbered hnumbered
    rw [hnone _ (List.fst_mem_of_mem_zipIdx hnumbered), Option.map_none]

/-! ## Refusals -/

/-- The refusal of the stock loop at a line. -/
def stockRefusal (idx : ℕ) : ServiceError :=
  .posError "fulfillment_failed" s!"could not decrement inventory for line {idx}" 422

/-- The outcome is the refusal of the stock loop at some line. -/
def RefusedForStock {Result : Type} (outcome : Except ServiceError Result) : Prop :=
  ∃ idx, outcome = .error (stockRefusal idx)

variable {error : ServiceError} {idempotencyKey bodyHash : String}
  {lines : List Located} {warehouseId : ℕ}

section Refused

variable {First Result : Type}

theorem refusedForStock_bind {step : Except ServiceError First}
    {next : First → Except ServiceError Result} :
    RefusedForStock (step >>= next) ↔
      RefusedForStock step ∨ ∃ value, step = .ok value ∧ RefusedForStock (next value) := by
  simp only [RefusedForStock, bind_eq_error]
  constructor
  · rintro ⟨idx, hstep | ⟨value, hvalue, hnext⟩⟩
    · exact Or.inl ⟨idx, hstep⟩
    · exact Or.inr ⟨value, hvalue, idx, hnext⟩
  · rintro (⟨idx, hstep⟩ | ⟨value, hvalue, idx, hnext⟩)
    · exact ⟨idx, Or.inl hstep⟩
    · exact ⟨idx, Or.inr ⟨value, hvalue, hnext⟩⟩

theorem not_refusedForStock_require {condition : Prop} [Decidable condition]
    (hother : ∀ idx, error ≠ stockRefusal idx) :
    ¬ RefusedForStock (require condition error) := by
  rintro ⟨idx, hrefused⟩
  exact hother idx (require_eq_error.mp hrefused).2

theorem not_refusedForStock_orThrow {value? : Option First}
    (hother : ∀ idx, error ≠ stockRefusal idx) :
    ¬ RefusedForStock (orThrow value? error) := by
  rintro ⟨idx, hrefused⟩
  exact hother idx (orThrow_eq_error.mp hrefused).2

theorem not_refusedForStock_pure {value : First} :
    ¬ RefusedForStock (pure value : Except ServiceError First) := by
  rintro ⟨idx, hrefused⟩
  exact pure_ne_error hrefused

theorem posError_ne_stockRefusal {status : ℕ} (hcode : code ≠ "fulfillment_failed")
    (idx : ℕ) : ServiceError.posError code message status ≠ stockRefusal idx := by
  intro hsame
  cases hsame
  exact hcode rfl

theorem valueError_ne_stockRefusal (idx : ℕ) :
    ServiceError.valueError message ≠ stockRefusal idx := by
  intro hsame
  cases hsame

theorem integrityError_ne_stockRefusal {relation : String} (idx : ℕ) :
    ServiceError.integrityError relation ≠ stockRefusal idx := by
  intro hsame
  cases hsame

end Refused

theorem replay?_not_stock {outcome : Except ServiceError PosResponse}
    (hreplay : replay? db message idempotencyKey bodyHash = some outcome) :
    ¬ RefusedForStock outcome := by
  obtain ⟨order, -, rfl⟩ := Option.map_eq_some_iff.mp hreplay
  rintro ⟨idx, hrefused⟩
  by_cases hsame : order.idempotencyBodyHash = some bodyHash
  · rw [if_pos hsame] at hrefused
    cases hcached : order.cachedResponseBody with
    | some response =>
        rw [hcached] at hrefused
        cases hrefused
    | none =>
        rw [hcached] at hrefused
        exact posError_ne_stockRefusal (by decide) idx (Except.error.inj hrefused)
  · rw [if_neg hsame] at hrefused
    exact posError_ne_stockRefusal (by decide) idx (Except.error.inj hrefused)

theorem mintChildSoNumber_not_stock (db : Db) (parentSoId : ℕ) (parentSoNumber : String)
    (orderType : OrderType) :
    ¬ RefusedForStock (mintChildSoNumber db parentSoId parentSoNumber orderType) := by
  rw [mintChildSoNumber, refusedForStock_bind]
  rintro (hsuffix | ⟨suffix, -, hnumber⟩)
  · exact not_refusedForStock_orThrow valueError_ne_stockRefusal hsuffix
  · exact not_refusedForStock_pure hnumber

theorem checkoutNumber_not_stock (ctx : RequestContext) (db : Db) (body : CheckoutBody) :
    ¬ RefusedForStock (checkoutNumber ctx db body) := by
  unfold checkoutNumber
  by_cases hsale : body.orderType = .sale
  · rw [if_pos hsale]
    exact not_refusedForStock_pure
  · rw [if_neg hsale]
    simp only [refusedForStock_bind, not_or, not_exists, not_and]
    refine ⟨not_refusedForStock_orThrow (posError_ne_stockRefusal (by decide)),
      fun number _ =>
        ⟨not_refusedForStock_orThrow (posError_ne_stockRefusal (by decide)),
          fun parent _ => ⟨mintChildSoNumber_not_stock _ _ _ _, fun _ _ => ?_⟩⟩⟩
    exact not_refusedForStock_pure

theorem insertPosOrder_not_stock (order : SalesOrder) (db : Db) :
    ¬ RefusedForStock (insertPosOrder order db) := by
  rw [insertPosOrder, refusedForStock_bind]
  rintro (hnumber | ⟨_, -, hinserted⟩)
  · exact not_refusedForStock_require integrityError_ne_stockRefusal hnumber
  · exact not_refusedForStock_pure hinserted

theorem createRma_not_stock (now : ℕ) (db : Db) (originalSoId : ℕ)
    (lines : List ReturnLine) : ¬ RefusedForStock (createRma now db originalSoId lines) := by
  simp only [createRma, insertReturn, refusedForStock_bind, not_or, not_exists, not_and]
  exact ⟨not_refusedForStock_orThrow valueError_ne_stockRefusal, fun original _ =>
    ⟨mintChildSoNumber_not_stock _ _ _ _, fun number _ =>
      ⟨⟨not_refusedForStock_require integrityError_ne_stockRefusal,
          fun _ _ => not_refusedForStock_pure⟩,
        fun opened _ => ⟨not_refusedForStock_require integrityError_ne_stockRefusal,
          fun _ _ => not_refusedForStock_pure⟩⟩⟩⟩

theorem exchangeReturnLines_not_stock (db : Db) (parentSoId : ℕ) (parentSoNumber : String)
    (returned : List ReturnedItem) :
    ¬ RefusedForStock (exchangeReturnLines db parentSoId parentSoNumber returned) := by
  induction returned with
  | nil => exact not_refusedForStock_pure
  | cons first rest ih =>
      simp only [exchangeReturnLines, refusedForStock_bind, not_or, not_exists, not_and]
      exact ⟨not_refusedForStock_orThrow (posError_ne_stockRefusal (by decide)),
        fun item _ => ⟨not_refusedForStock_require (posError_ne_stockRefusal (by decide)),
          fun _ _ => ⟨ih, fun _ _ => not_refusedForStock_pure⟩⟩⟩

theorem openExchangeReturn_not_stock (ctx : RequestContext) (parentSoId : Option ℕ)
    (body : CheckoutBody) (db : Db) :
    ¬ RefusedForStock (openExchangeReturn ctx parentSoId body db) := by
  cases parentSoId with
  | none => exact not_refusedForStock_pure
  | some parentSoId =>
      rw [openExchangeReturn]
      by_cases hexchange : body.orderType = .exchange ∧ body.returnedItems ≠ []
      · rw [if_pos hexchange]
        simp only [refusedForStock_bind, not_or, not_exists, not_and]
        exact ⟨exchangeReturnLines_not_stock _ _ _ _, fun _ _ =>
          ⟨createRma_not_stock _ _ _ _, fun _ _ => not_refusedForStock_pure⟩⟩
      · rw [if_neg hexchange]
        exact not_refusedForStock_pure

/-! ## The stock loop -/

/-- What the first row of a place has to sell; a place without a row has nothing. -/
def firstAvailable (db : Db) (place : Place) : ℤ :=
  ((orderBy (fun left right => left.inventoryId ≤ right.inventoryId)
    (db.inventory.select fun row => row.place = place)).head?.map InventoryRow.available).getD 0

theorem firstAvailable_lineRow? (db : Db) (line : Located) :
    firstAvailable db line.place =
      ((lineRow? db line).map InventoryRow.available).getD 0 := rfl

/-- Rewriting a row where it stands changes what its place has, if it is the first row
there, and nothing else. -/
theorem firstAvailable_updateKey {db' : Db} {row : InventoryRow}
    (set : InventoryRow → InventoryRow) (hrow : lineRow? db line = some row)
    (hset : ∀ row, (set row).inventoryId = row.inventoryId)
    (hplace : ∀ row, (set row).place = row.place) {quantity : ℤ}
    (havailable : (set row).available = row.available - quantity)
    (hinventory : db'.inventory = db.inventory.updateKey row.inventoryId set hset)
    (place : Place) :
    firstAvailable db' place =
      if place = line.place then firstAvailable db place - quantity
      else firstAvailable db place := by
  let rewrite : InventoryRow → InventoryRow := fun stored =>
    if stored.inventoryId = row.inventoryId then set stored else stored
  have hkey : ∀ stored, (rewrite stored).inventoryId = stored.inventoryId := by
    intro stored
    by_cases hsame : stored.inventoryId = row.inventoryId <;> simp [rewrite, hsame, hset]
  have hkept : ∀ stored, (rewrite stored).place = stored.place := by
    intro stored
    by_cases hsame : stored.inventoryId = row.inventoryId <;>
      simp [rewrite, hsame, hplace]
  -- the rows of the place are the rewritten ones, in the same order
  have hrows : orderBy (fun left right => left.inventoryId ≤ right.inventoryId)
      (db'.inventory.select fun row => row.place = place) =
      (orderBy (fun left right => left.inventoryId ≤ right.inventoryId)
        (db.inventory.select fun row => row.place = place)).map rewrite := by
    have hselect : (db'.inventory.select fun row => row.place = place) =
        (db.inventory.select fun row => row.place = place).map rewrite := by
      have hupdated : db'.inventory.rows = db.inventory.rows.map rewrite := by
        rw [hinventory]
        apply List.map_congr_left
        intro stored _
        simp [rewrite]
      rw [Table.select, Table.select, hupdated, List.filter_map]
      congr 1
      apply List.filter_congr
      intro stored _
      rw [Function.comp_apply, hkept]
    rw [hselect, orderBy, orderBy]
    symm
    apply List.map_insertionSort
    intro left _ right _
    rw [hkey, hkey]
  rw [firstAvailable, hrows, List.head?_map]
  by_cases hhere : place = line.place
  · subst hhere
    have hhead : (orderBy (fun left right => left.inventoryId ≤ right.inventoryId)
        (db.inventory.select fun row => row.place = line.place)).head? = some row := hrow
    have hrewritten : rewrite row = set row := if_pos rfl
    rw [if_pos rfl, hhead, firstAvailable_lineRow?, hrow]
    simpa [hrewritten] using havailable
  · rw [if_neg hhere, firstAvailable]
    cases hhead : (orderBy (fun left right => left.inventoryId ≤ right.inventoryId)
        (db.inventory.select fun row => row.place = place)).head? with
    | none => rfl
    | some other =>
        have hother := mem_orderBy.mp (List.mem_of_mem_head? hhead)
        obtain ⟨hstored, hthere⟩ := List.mem_filter.mp hother
        have hne : other.inventoryId ≠ row.inventoryId := by
          intro hsame
          have hrows := List.inj_on_of_nodup_map db.inventory.keys_nodup hstored
            (lineRow?_spec hrow).1 hsame
          rw [hrows, (lineRow?_spec hrow).2] at hthere
          exact hhere (of_decide_eq_true hthere).symm
        have hsame : rewrite other = other := if_neg hne
        rw [Option.map_some, hsame]

theorem sellLine_sold_iff (hpos : 0 < line.quantity) :
    (∃ sold, sellLine ctx isPhoneOrder soId db line = .ok sold) ↔
      line.quantity ≤ firstAvailable db line.place := by
  rw [firstAvailable_lineRow?]
  cases hrow : lineRow? db line with
  | none =>
      constructor
      · rintro ⟨sold, hsold⟩
        simp [sellLine, bind_eq_ok, hrow] at hsold
      · intro hle
        simp only [Option.map_none, Option.getD_none] at hle
        omega
  | some row =>
      rw [Option.map_some, Option.getD_some]
      constructor
      · rintro ⟨sold, hsold⟩
        simp only [sellLine, bind_eq_ok, orThrow_eq_ok, hrow, require_eq_ok] at hsold
        obtain ⟨_, hfound, _, hle, -⟩ := hsold
        cases hfound
        exact hle
      · intro hle
        unfold sellLine
        rw [orThrow_bind hrow, require_bind hle]
        by_cases hphone : isPhoneOrder = true
        · exact ⟨_, if_pos hphone⟩
        · exact ⟨_, if_neg hphone⟩

/-- A line takes its units from what its place has; the tables its codes are looked up in
stand. -/
theorem sellLine_available {sold : Db} (hsold : sellLine ctx isPhoneOrder soId db line = .ok sold) :
    firstAvailable sold =
      withdraw Located.place Located.quantity (firstAvailable db) line := by
  simp only [sellLine, bind_eq_ok, orThrow_eq_ok, require_eq_ok] at hsold
  obtain ⟨row, hrow, _, -, hstored⟩ := hsold
  funext place
  by_cases hphone : isPhoneOrder = true
  · rw [if_pos hphone, pure_eq_ok] at hstored
    subst hstored
    exact firstAvailable_updateKey
      (fun row => { row with
        quantityAllocated := row.quantityAllocated + line.quantity
        updatedAt := ctx.now })
      hrow (fun _ => rfl) (fun _ => rfl) (sub_add_eq_sub_sub _ _ _) rfl place
  · rw [if_neg hphone, pure_eq_ok] at hstored
    subst hstored
    apply firstAvailable_updateKey
      (fun row => { row with
        quantityOnHand := row.quantityOnHand + -line.quantity
        updatedAt := ctx.now })
      hrow (fun _ => rfl) (fun _ => rfl) ?_ rfl place
    simp only [InventoryRow.available]
    omega

/-- The stock loop goes through exactly when the withdrawals do. -/
theorem sellLines_sold_iff (hpos : ∀ line ∈ lines, 0 < line.quantity) :
    (∃ sold, sellLines ctx isPhoneOrder soId lines db = .ok sold) ↔
      Withdraws Located.place Located.quantity (firstAvailable db) lines := by
  induction lines generalizing db with
  | nil => exact iff_of_true ⟨db, rfl⟩ trivial
  | cons line rest ih =>
      have hline := hpos line List.mem_cons_self
      have hrest : ∀ other ∈ rest, 0 < other.quantity := fun other hother =>
        hpos other (List.mem_cons_of_mem line hother)
      have hhead : (∃ sold, sellLine ctx isPhoneOrder soId db line = .ok sold) ↔
          line.quantity ≤ firstAvailable db line.place := sellLine_sold_iff hline
      rw [Withdraws, ← hhead]
      simp only [sellLines, bind_eq_ok]
      constructor
      · rintro ⟨done, sold, hsold, hdone⟩
        refine ⟨⟨sold, hsold⟩, ?_⟩
        rw [← sellLine_available hsold]
        exact (ih hrest).mp ⟨done, hdone⟩
      · rintro ⟨⟨sold, hsold⟩, hlater⟩
        rw [← sellLine_available hsold] at hlater
        obtain ⟨done, hdone⟩ := (ih hrest).mpr hlater
        exact ⟨done, sold, hsold, hdone⟩

/-- The stock loop is refused for stock or not at all. -/
theorem sellLines_refused_iff :
    RefusedForStock (sellLines ctx isPhoneOrder soId lines db) ↔
      ¬ ∃ sold, sellLines ctx isPhoneOrder soId lines db = .ok sold := by
  constructor
  · rintro ⟨idx, hrefused⟩ ⟨sold, hsold⟩
    rw [hrefused] at hsold
    cases hsold
  · intro hnone
    induction lines generalizing db with
    | nil => exact absurd ⟨db, rfl⟩ hnone
    | cons line rest ih =>
        rw [sellLines, refusedForStock_bind]
        cases hline : sellLine ctx isPhoneOrder soId db line with
        | error error =>
            left
            refine ⟨line.idx, ?_⟩
            simp only [sellLine, bind_eq_error, orThrow_eq_error, require_eq_error] at hline
            rcases hline with ⟨-, rfl⟩ | ⟨row, -, ⟨-, rfl⟩ | ⟨_, -, hstored⟩⟩
            · rfl
            · rfl
            · by_cases hphone : isPhoneOrder = true
              · rw [if_pos hphone] at hstored
                exact absurd hstored pure_ne_error
              · rw [if_neg hphone] at hstored
                exact absurd hstored pure_ne_error
        | ok sold =>
            right
            refine ⟨sold, rfl, ih ?_⟩
            rintro ⟨done, hdone⟩
            apply hnone
            exact ⟨done, by rw [sellLines, hline]; exact hdone⟩

/-! ## The checkout of a validated cart -/

/-- The order gets a number no other order has. -/
def Numbered (ctx : RequestContext) (db : Db) (body : CheckoutBody) : Prop :=
  ∃ parentSoId soNumber, checkoutNumber ctx db body = .ok (parentSoId, soNumber) ∧
    ∀ order ∈ db.salesOrders.rows, order.soNumber ≠ soNumber

/-- The checkout comes to the stock loop: its key is new, it is no backorder, and its
order gets a number of its own. -/
structure ReachesStock (ctx : RequestContext) (db : Db) (body : CheckoutBody) : Prop where
  unanswered : ∀ order ∈ db.salesOrders.rows, order.idempotencyKey ≠ some body.idempotencyKey
  stocked : body.backorder = false
  numbered : Numbered ctx db body

/-- At each place of the cart its lines together ask for no more than the first row has
available. -/
def CoveredByFirstRows (db : Db) (lines : List PosLine) : Prop :=
  ∀ line ∈ locate db lines, unitsAt (locate db lines) line.place ≤ firstAvailable db line.place

theorem replay?_eq_none :
    replay? db message idempotencyKey bodyHash = none ↔
      ∀ order ∈ db.salesOrders.rows, order.idempotencyKey ≠ some idempotencyKey := by
  rw [replay?, Option.map_eq_none_iff, List.find?_eq_none]
  simp

theorem locate_pos (hline : line ∈ locate db body.lines) : 0 < line.quantity :=
  (body.lines_valid _ (locate_mem hline)).1

/-- The stock loop of a cart goes through exactly when its places cover it. -/
theorem applyLines_sold_iff (hstocked : body.backorder = false) :
    (∃ sold, applyLines ctx soId warehouseId body db = .ok sold) ↔
      CoveredByFirstRows db body.lines := by
  have hpos : ∀ line ∈ lockOrder (locate db body.lines), 0 < line.quantity :=
    fun line hline => locate_pos (mem_orderBy.mp hline)
  rw [applyLines, if_neg (by simp [hstocked]), sellLines_sold_iff hpos,
    withdraws_iff fun line hline => (hpos line hline).le]
  constructor
  · intro hcovered line hline
    have hplace := hcovered line (mem_orderBy.mpr hline)
    rw [unitsAt, ← unitsOver_lockOrder]
    exact hplace
  · intro hcovered line hline
    have hplace := hcovered line (mem_orderBy.mp hline)
    rw [unitsAt, ← unitsOver_lockOrder] at hplace
    exact hplace

/-- The order's header changes nothing the stock loop reads. -/
theorem covered_insertPosOrder {opened : Db} {order : SalesOrder}
    (hopened : insertPosOrder order db = .ok opened) (lines : List PosLine) :
    CoveredByFirstRows opened lines ↔ CoveredByFirstRows db lines := by
  simp only [insertPosOrder, bind_eq_ok, pure_eq_ok] at hopened
  obtain ⟨_, -, rfl⟩ := hopened
  have hcodes : SameCodes db { db with
      salesOrders := db.salesOrders.insert fun soId => { order with soId := soId } } :=
    ⟨rfl, rfl, rfl⟩
  rw [CoveredByFirstRows, hcodes.locate]
  rfl

theorem insertPosOrder_opened_iff (db : Db) (order : SalesOrder) :
    (∃ opened, insertPosOrder order db = .ok opened) ↔
      ∀ stored ∈ db.salesOrders.rows, stored.soNumber ≠ order.soNumber := by
  simp only [insertPosOrder, bind_eq_ok, pure_eq_ok, require_eq_ok]
  constructor
  · rintro ⟨_, _, hfresh, -⟩
    exact hfresh
  · intro hfresh
    exact ⟨_, (), hfresh, rfl⟩

theorem headerWarehouse_not_stock (hbackorder : body.backorder = true) :
    ¬ RefusedForStock (headerWarehouse code db body) := by
  rw [headerWarehouse, if_pos hbackorder]
  exact not_refusedForStock_orThrow (posError_ne_stockRefusal (by decide))

theorem headerWarehouse_located (code : String) (hstocked : body.backorder = false)
    (hlocated : allLocated db body.lines = true) :
    ∃ warehouseId, headerWarehouse code db body = .ok warehouseId := by
  rw [headerWarehouse, if_neg (by simp [hstocked])]
  cases hlines : locate db body.lines with
  | nil =>
      have hnone := locate_lines hlocated
      rw [hlines] at hnone
      exact absurd hnone.symm body.lines_ne_nil
  | cons line rest => exact ⟨line.warehouseId, rfl⟩

theorem applyLines_refused_iff :
    RefusedForStock (applyLines ctx soId warehouseId body db) ↔
      body.backorder = false ∧ ¬ CoveredByFirstRows db body.lines := by
  by_cases hstocked : body.backorder = false
  · rw [and_iff_right hstocked, ← applyLines_sold_iff hstocked, applyLines,
      if_neg (by simp [hstocked])]
    exact sellLines_refused_iff
  · rw [applyLines, if_pos (by simpa using hstocked)]
    exact iff_of_false not_refusedForStock_pure fun hboth => hstocked hboth.1

/-- A validated cart is refused in the stock loop, if it is refused for stock at all. -/
theorem newCheckout_refused_iff (hvalid : validateCart ctx db body.lines = []) :
    RefusedForStock (newCheckout ctx code db body) ↔
      body.backorder = false ∧ Numbered ctx db body ∧
        ¬ CoveredByFirstRows db body.lines := by
  have hlines := fun line hline => classifyLine_none (validateCart_nil.mp hvalid line hline)
  have hscope : ∀ line ∈ body.lines, inTokenScope ctx db line = true :=
    fun line hline => (hlines line hline).1
  have hsellable : ∀ line ∈ body.lines, sellable db line = true :=
    fun line hline => (hlines line hline).2.1
  have hlocated : allLocated db body.lines = true := by
    rw [allLocated, List.all_eq_true]
    intro numbered hnumbered
    exact (hlines _ (List.fst_mem_of_mem_zipIdx hnumbered)).2.2 numbered.2
  simp only [newCheckout, prepareCheckout, completeCheckout, bind_assoc, pure_bind]
  rw [require_bind hscope, require_bind ⟨hsellable, fun _ => hlocated⟩]
  simp only [refusedForStock_bind, applyLines_refused_iff, checkoutNumber_not_stock,
    insertPosOrder_not_stock, openExchangeReturn_not_stock, not_refusedForStock_pure,
    false_or, and_false, exists_false, or_false]
  constructor
  · rintro ⟨⟨parentSoId, soNumber⟩, hnumber, hheader | ⟨_, -, opened, hopened, hstocked, hnot⟩⟩
    · by_cases hstocked : body.backorder = false
      · obtain ⟨warehouseId, hheader'⟩ := headerWarehouse_located code hstocked hlocated
        obtain ⟨idx, hrefused⟩ := hheader
        rw [hheader'] at hrefused
        cases hrefused
      · exact absurd hheader (headerWarehouse_not_stock (by simpa using hstocked))
    · rw [covered_insertPosOrder hopened] at hnot
      exact ⟨hstocked, ⟨parentSoId, soNumber, hnumber,
        (insertPosOrder_opened_iff _ _).mp ⟨opened, hopened⟩⟩, hnot⟩
  · rintro ⟨hstocked, ⟨parentSoId, soNumber, hnumber, hfresh⟩, hnot⟩
    obtain ⟨warehouseId, hheader⟩ := headerWarehouse_located code hstocked hlocated
    obtain ⟨opened, hopened⟩ := (insertPosOrder_opened_iff db
      (checkoutOrder ctx body soNumber warehouseId parentSoId)).mpr hfresh
    refine ⟨(parentSoId, soNumber), hnumber, Or.inr ⟨warehouseId, hheader, opened, hopened,
      hstocked, ?_⟩⟩
    rwa [covered_insertPosOrder hopened]

/-- A cart the check finds nothing wrong with is not refused for stock, if and only if
its checkout does not come to the stock loop or the first rows of its places cover its
lines taken together. -/
theorem validatedCart_sold_iff {ctx : RequestContext} {code : String} {db : Db}
    {body : CheckoutBody} (hvalid : validateCart ctx db body.lines = []) :
    ¬ RefusedForStock (checkout ctx code db body) ↔
      (ReachesStock ctx db body → CoveredByFirstRows db body.lines) := by
  unfold checkout
  cases hreplay : replay? db "idempotency_key matches an existing SO but body differs"
      body.idempotencyKey body.bodyHash with
  | some outcome =>
      apply iff_of_true
      · have hanswered := replay?_not_stock hreplay
        rintro ⟨idx, hrefused⟩
        cases outcome with
        | ok response => cases hrefused
        | error error => exact hanswered ⟨idx, congrArg _ (Except.error.inj hrefused)⟩
      · intro hreaches
        rw [replay?_eq_none.mpr hreaches.unanswered] at hreplay
        cases hreplay
  | none =>
      have hnew := replay?_eq_none.mp hreplay
      rw [newCheckout_refused_iff hvalid]
      constructor
      · intro hnot hreaches
        by_contra hshort
        exact hnot ⟨hreaches.stocked, hreaches.numbered, hshort⟩
      · rintro hcovered ⟨hstocked, hnumbered, hshort⟩
        exact hshort (hcovered ⟨hnew, hstocked, hnumbered⟩)

theorem validatedCart_sold_iff_body :
    validateCart (SmallShop.till 1) SmallShop.db SmallShop.body.lines = [] ∧
      ¬ RefusedForStock (checkout (SmallShop.till 1) "" SmallShop.db SmallShop.body) := by
  have hvalid : validateCart (SmallShop.till 1) SmallShop.db SmallShop.body.lines = [] := by
    decide
  refine ⟨hvalid, (validatedCart_sold_iff hvalid).mpr fun _ => ?_⟩
  unfold CoveredByFirstRows
  decide

/-- Three widgets and three more, from a bin with five. -/
def SmallShop.twoLines : CheckoutBody :=
  { SmallShop.body with
    lines := [SmallShop.widgets 3 "A-01", SmallShop.widgets 3 "A-01"]
    lines_ne_nil := List.cons_ne_nil _ _
    lines_valid := by decide
    lines_located := by decide }

/-- The check passes each line against the five on hand; the checkout refuses the
second. -/
theorem validatedCart_refused :
    validateCart (SmallShop.till 1) SmallShop.db SmallShop.twoLines.lines = [] ∧
      RefusedForStock
        (checkout (SmallShop.till 1) "" SmallShop.db SmallShop.twoLines) :=
  ⟨by decide, 1, rfl⟩

end SentryWms.Pos

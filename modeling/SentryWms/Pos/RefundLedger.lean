import SentryWms.History.Footprint
import SentryWms.Pos.Refund

/-!
# The refund ledger

What a refund adds to the ledger of its sale, and what runs of refunds keep: no item
is refunded beyond what was sold of it.  Locations are capped within a request only,
so a location can be refunded twice while another never is; in runs without such a
request the locations are capped too, and a sale that is refunded in full is back on
the shelves it was taken from.
-/

namespace SentryWms.Pos

open Relational Inventory SalesOrders
open History (orderStatusOf)

/-! ## Resolving lines again -/

/-- The tables the codes of a line are looked up in are as before. -/
structure SameCodes (before after : Db) : Prop where
  items : after.items = before.items
  warehouses : after.warehouses = before.warehouses
  bins : after.bins = before.bins

theorem SameCodes.refl (db : Db) : SameCodes db db := ⟨rfl, rfl, rfl⟩

variable {before after db' : Db} {line : Located} {ctx : RequestContext}
  {lines sold : List Located} {k soId : ℕ} {full : Bool} {response : PosResponse}
  {checked : CheckedRefund}

theorem SameCodes.trans {middle : Db} (hfirst : SameCodes before middle)
    (hsecond : SameCodes middle after) : SameCodes before after :=
  ⟨hsecond.items.trans hfirst.items, hsecond.warehouses.trans hfirst.warehouses,
    hsecond.bins.trans hfirst.bins⟩

theorem SameCodes.locate? (hsame : SameCodes before after) : locate? after = locate? before := by
  funext numbered
  simp only [Pos.locate?, itemBySku?, warehouseByCode?, binByCode?, hsame.items,
    hsame.warehouses, hsame.bins]

theorem SameCodes.locate (hsame : SameCodes before after) (lines : List PosLine) :
    locate after lines = locate before lines := by
  rw [Pos.locate, Pos.locate, hsame.locate?]

theorem locate?_line {db : Db} {numbered : PosLine × ℕ} {located : Located}
    (hlocated : locate? db numbered = some located) : located.line = numbered.1 := by
  simp only [locate?, Option.bind_eq_bind, Option.bind_eq_some_iff, Option.pure_def,
    Option.some.injEq] at hlocated
  obtain ⟨item, -, warehouse, -, bin, -, rfl⟩ := hlocated
  rfl

/-- Lines that all resolve are the lines of what they resolve to. -/
theorem locate_lines {db : Db} {lines : List PosLine} (hall : allLocated db lines = true) :
    (locate db lines).map Located.line = lines := by
  unfold allLocated at hall
  unfold locate
  generalize 0 = start at hall ⊢
  induction lines generalizing start with
  | nil => rfl
  | cons line rest ih =>
      rw [List.zipIdx_cons, List.all_cons, Bool.and_eq_true] at hall
      obtain ⟨located, hlocated⟩ := Option.isSome_iff_exists.mp hall.1
      rw [List.zipIdx_cons, List.filterMap_cons, hlocated, List.map_cons,
        locate?_line hlocated, ih (start + 1) hall.2]

theorem locate_mem {db : Db} {lines : List PosLine} {located : Located}
    (hmem : located ∈ locate db lines) : located.line ∈ lines := by
  obtain ⟨numbered, hnumbered, hlocated⟩ := List.mem_filterMap.mp hmem
  rw [locate?_line hlocated]
  exact List.fst_mem_of_mem_zipIdx hnumbered

/-- Lines resolved in one state are at one place if and only if they have the same
codes. -/
theorem sameLocation_iff {db : Db} {left right : PosLine × ℕ} {here there : Located}
    (hhere : locate? db left = some here) (hthere : locate? db right = some there) :
    sameLocation here there = true ↔ here.place = there.place := by
  simp only [locate?, Option.bind_eq_bind, Option.bind_eq_some_iff, Option.pure_def,
    Option.some.injEq] at hhere hthere
  obtain ⟨item, hitem, warehouse, hwarehouse, bin, hbin, rfl⟩ := hhere
  obtain ⟨item', hitem', warehouse', hwarehouse', bin', hbin', rfl⟩ := hthere
  simp only [sameLocation, Located.place, Place.mk.injEq, decide_eq_true_eq]
  constructor
  · rintro ⟨hsku, hcode, hbinCode⟩
    rw [hsku, hitem'] at hitem
    rw [hcode, hwarehouse'] at hwarehouse
    cases hitem
    cases hwarehouse
    rw [hbinCode, hbin'] at hbin
    cases hbin
    exact ⟨rfl, rfl, rfl⟩
  · rintro ⟨hitemId, hbinId, hwarehouseId⟩
    have hitems := List.inj_on_of_nodup_map db.items.keys_nodup (List.mem_of_find?_eq_some hitem)
      (List.mem_of_find?_eq_some hitem') hitemId
    have hbins := List.inj_on_of_nodup_map db.bins.keys_nodup (List.mem_of_find?_eq_some hbin)
      (List.mem_of_find?_eq_some hbin') hbinId
    have hwarehouses := List.inj_on_of_nodup_map db.warehouses.keys_nodup
      (List.mem_of_find?_eq_some hwarehouse) (List.mem_of_find?_eq_some hwarehouse')
      hwarehouseId
    subst hitems hbins hwarehouses
    have hsku := List.find?_some hitem
    have hsku' := List.find?_some hitem'
    have hcode := List.find?_some hwarehouse
    have hcode' := List.find?_some hwarehouse'
    have hbinCode := List.find?_some hbin
    have hbinCode' := List.find?_some hbin'
    simp only [decide_eq_true_eq] at hsku hsku' hcode hcode' hbinCode hbinCode'
    exact ⟨hsku.symm.trans hsku', hcode.symm.trans hcode', hbinCode.1.symm.trans hbinCode'.1⟩

/-- What lines have at a line's codes is what they have at its place. -/
theorem unitsAtCodes_eq {db : Db} {lines : List PosLine} {numbered : PosLine × ℕ}
    (hline : locate? db numbered = some line) :
    unitsAtCodes (locate db lines) line = unitsAt (locate db lines) line.place := by
  rw [unitsAtCodes, unitsAt, unitsOver, totalOver]
  congr 1
  apply List.map_congr_left
  intro other hother
  obtain ⟨numbered', -, hother⟩ := List.mem_filterMap.mp hother
  simp only [sameLocation_iff hother hline, decide_eq_true_eq]

theorem lineRow?_spec {db : Db} {row : InventoryRow} (hrow : lineRow? db line = some row) :
    row ∈ db.inventory.rows ∧ row.place = line.place := by
  have hmem := mem_orderBy.mp (List.mem_of_mem_head? hrow)
  simpa [Table.select] using List.mem_filter.mp hmem

theorem unitsOver_lockOrder (places : Place → Bool) (lines : List Located) :
    unitsOver places (lockOrder lines) = unitsOver places lines :=
  totalOver_perm places (orderBy_perm _ lines)

/-! ## The ledger of a sale -/

/-- Rows that name an order name one that was inserted. -/
structure References (db : Db) : Prop where
  lines : ∀ line ∈ db.salesOrderLines.rows, line.soId < db.salesOrders.nextKey
  entries : ∀ entry ∈ db.auditLog.rows, entry.entityId < db.salesOrders.nextKey
  parents : ∀ order ∈ db.salesOrders.rows, ∀ parent,
    order.parentSoId = some parent → parent < db.salesOrders.nextKey

instance (db : Db) : Decidable (References db) :=
  decidable_of_iff
    ((∀ line ∈ db.salesOrderLines.rows, line.soId < db.salesOrders.nextKey) ∧
      (∀ entry ∈ db.auditLog.rows, entry.entityId < db.salesOrders.nextKey) ∧
      ∀ order ∈ db.salesOrders.rows,
        order.parentSoId.all fun parent => decide (parent < db.salesOrders.nextKey))
    ⟨fun ⟨hlines, hentries, hparents⟩ => ⟨hlines, hentries, fun order horder parent h =>
        by simpa [h] using hparents order horder⟩,
      fun h => ⟨h.lines, h.entries, fun order horder => by
        cases hparent : order.parentSoId with
        | none => rfl
        | some parent => simpa using h.parents order horder parent hparent⟩⟩

/-- A new order, with rows that name it. -/
theorem References.extend {db : Db} (hreferences : References db)
    (hnextKey : db'.salesOrders.nextKey = db.salesOrders.nextKey + 1)
    (hlines : ∀ line ∈ db'.salesOrderLines.rows,
      line ∈ db.salesOrderLines.rows ∨ line.soId = db.salesOrders.nextKey)
    (hentries : ∀ entry ∈ db'.auditLog.rows,
      entry ∈ db.auditLog.rows ∨ entry.entityId = db.salesOrders.nextKey)
    (hparents : ∀ order ∈ db'.salesOrders.rows,
      (∃ old ∈ db.salesOrders.rows, order.parentSoId = old.parentSoId) ∨
        ∀ parent, order.parentSoId = some parent → parent < db.salesOrders.nextKey) :
    References db' := by
  constructor
  · intro line hline
    rw [hnextKey]
    rcases hlines line hline with hkept | hnew
    · exact Nat.lt_succ_of_lt (hreferences.lines line hkept)
    · rw [hnew]
      exact Nat.lt_succ_self _
  · intro entry hentry
    rw [hnextKey]
    rcases hentries entry hentry with hkept | hnew
    · exact Nat.lt_succ_of_lt (hreferences.entries entry hkept)
    · rw [hnew]
      exact Nat.lt_succ_self _
  · intro order horder parent hparent
    rw [hnextKey]
    rcases hparents order horder with ⟨old, hold, hsame⟩ | hnew
    · exact Nat.lt_succ_of_lt (hreferences.parents old hold parent (hsame ▸ hparent))
    · exact Nat.lt_succ_of_lt (hnew parent hparent)

/-- The entry of a refund of the order. -/
def isRefundOf (db : Db) (soId : ℕ) (entry : AuditEntry) : Bool :=
  entry.actionType = .posRefund ∧ isMemoOf db soId entry.entityId

/-- The lines the refunds of an order have put back, by their audit entries. -/
def refundedLines (db : Db) (soId : ℕ) : List Located :=
  (db.auditLog.select (isRefundOf db soId)).flatMap fun entry => locate db entry.lines

/-- Units of a sale put back at a set of places. -/
def refundedOver (db : Db) (soId : ℕ) (places : Place → Bool) : ℤ :=
  unitsOver places (refundedLines db soId)

/-- Units of a sale put back at one item, warehouse and bin. -/
def refundedAt (db : Db) (soId : ℕ) (place : Place) : ℤ :=
  refundedOver db soId fun other => other = place

/-! ## What the credit lines write -/

structure Credited (memoId : ℕ) (lines : List Located) (db db' : Db) : Prop where
  codes : SameCodes db db'
  salesOrders : db'.salesOrders = db.salesOrders
  auditLog : db'.auditLog = db.auditLog
  orderLines : ∀ line ∈ db'.salesOrderLines.rows,
    line ∈ db.salesOrderLines.rows ∨ line.soId = memoId
  shipped : ∀ (test : ℕ → Bool) itemId,
    (db'.salesOrderLines.sum fun line =>
        if test line.soId ∧ line.itemId = itemId then -line.quantityShipped else 0) =
      (db.salesOrderLines.sum fun line =>
        if test line.soId ∧ line.itemId = itemId then -line.quantityShipped else 0) +
        if test memoId then unitsOf lines itemId else 0
  onHand : ∀ places, onHandOver places db' = onHandOver places db + unitsOver places lines

theorem creditLine_credited {memoId : ℕ} {db : Db} (hok : creditLine ctx memoId db line = .ok db') :
    Credited memoId [line] db db' := by
  simp only [creditLine, bind_eq_ok, orThrow_eq_ok, pure_eq_ok] at hok
  obtain ⟨row, hrow, rfl⟩ := hok
  obtain ⟨hstored, hplace⟩ := lineRow?_spec hrow
  refine ⟨⟨rfl, rfl, rfl⟩, rfl, rfl, ?_, ?_, ?_⟩
  · intro stored hmem
    rcases List.mem_append.mp hmem with hold | hnew
    · exact Or.inl hold
    · rw [List.mem_singleton.mp hnew]
      exact Or.inr rfl
  · intro test itemId
    simp only [addOnHand, insertPosLine]
    rw [Table.sum_insert]
    by_cases htest : test memoId <;> by_cases hitem : line.itemId = itemId <;>
      simp [htest, hitem, unitsOf, unitsOver, ofItem, Located.place, Located.quantity]
  · intro places
    have hinserted : row ∈ (insertPosLine memoId line.itemId (-line.quantity) 0
        (-line.quantity) (line.idx + 1) (.ofOrder .soShipped) db).inventory.rows :=
      hstored
    rw [onHandOver_addOnHand places _ ctx.now line.quantity hinserted, hplace]
    simp [onHandOver, insertPosLine, unitsOver]

theorem creditLines_credited {memoId : ℕ} {db : Db}
    (hok : creditLines ctx memoId lines db = .ok db') :
    Credited memoId lines db db' := by
  induction lines generalizing db with
  | nil =>
      simp only [creditLines, pure_eq_ok] at hok
      subst hok
      exact ⟨SameCodes.refl db, rfl, rfl, fun _ => Or.inl, by simp [unitsOf, unitsOver],
        by simp [unitsOver]⟩
  | cons line rest ih =>
      simp only [creditLines, bind_eq_ok] at hok
      obtain ⟨middle, hline, hrest⟩ := hok
      have hfirst := creditLine_credited hline
      have hlater := ih hrest
      refine ⟨hfirst.codes.trans hlater.codes, hlater.salesOrders.trans hfirst.salesOrders,
        hlater.auditLog.trans hfirst.auditLog, ?_, ?_, ?_⟩
      · intro stored hmem
        rcases hlater.orderLines stored hmem with hmiddle | hnew
        · exact hfirst.orderLines stored hmiddle
        · exact Or.inr hnew
      · intro test itemId
        rw [hlater.shipped, hfirst.shipped]
        by_cases htest : test memoId <;>
          simp [htest, unitsOf, unitsOver, add_assoc]
      · intro places
        rw [hlater.onHand, hfirst.onHand]
        simp [unitsOver, add_assoc]

/-! ## What a refund writes -/

/-- An accepted refund of the sale `soId` with the lines. -/
structure Refunded (soId : ℕ) (full : Bool) (lines : List Located) (db db' : Db) :
    Prop where
  codes : SameCodes db db'
  references : References db'
  refundedOf : ∀ other itemId, refundedOf db' other itemId =
    refundedOf db other itemId + if other = soId then unitsOf lines itemId else 0
  refundedLines : ∀ other, refundedLines db' other =
    refundedLines db other ++ if other = soId then lines else []
  checkoutAudit : ∀ other, checkoutAudit? db' other = checkoutAudit? db other
  status : ∀ other < db.salesOrders.nextKey, orderStatusOf db' other =
    if other = soId ∧ full then (orderStatusOf db other).map fun _ => .soRefunded
    else orderStatusOf db other
  nextKey : db'.salesOrders.nextKey = db.salesOrders.nextKey + 1
  onHand : ∀ places, onHandOver places db' = onHandOver places db + unitsOver places lines

/-- An update of orders that keeps their parents and types and, of all orders but
`soId`, the status. -/
structure Stamped (soId : ℕ) (full : Bool) (db db' : Db) : Prop where
  codes : SameCodes db db'
  inventory : db'.inventory = db.inventory
  salesOrderLines : db'.salesOrderLines = db.salesOrderLines
  auditLog : db'.auditLog = db.auditLog
  nextKey : db'.salesOrders.nextKey = db.salesOrders.nextKey
  memo : isMemoOf db' = isMemoOf db
  parents : ∀ order ∈ db'.salesOrders.rows, ∃ old ∈ db.salesOrders.rows,
    order.parentSoId = old.parentSoId
  status : ∀ other, orderStatusOf db' other =
    if other = soId ∧ full then (orderStatusOf db other).map fun _ => .soRefunded
    else orderStatusOf db other

theorem Stamped.refl (soId : ℕ) (db : Db) : Stamped soId false db db :=
  ⟨SameCodes.refl db, rfl, rfl, rfl, rfl, rfl,
    fun order horder => ⟨order, horder, rfl⟩, by simp⟩

/-- Rewriting an order without its parent and type. -/
theorem isMemoOf_updateKey {db : Db} {set : SalesOrder → SalesOrder}
    {hset : ∀ order, (set order).soId = order.soId}
    (hparent : ∀ order, (set order).parentSoId = order.parentSoId)
    (htype : ∀ order, (set order).orderType = order.orderType) :
    isMemoOf { db with salesOrders := db.salesOrders.updateKey k set hset } =
      isMemoOf db := by
  funext soId memoId
  simp only [isMemoOf, Table.find?_updateKey]
  by_cases hkey : memoId = k
  · cases db.salesOrders.find? memoId with
    | none => simp
    | some order => simp [hkey, hparent, htype]
  · rw [if_neg hkey]

theorem stamped_updateKey {db : Db} {set : SalesOrder → SalesOrder}
    {hset : ∀ order, (set order).soId = order.soId}
    (hparent : ∀ order, (set order).parentSoId = order.parentSoId)
    (htype : ∀ order, (set order).orderType = order.orderType)
    (hstatus : ∀ other, orderStatusOf
        { db with salesOrders := db.salesOrders.updateKey k set hset } other =
      if other = soId ∧ full then (orderStatusOf db other).map fun _ => .soRefunded
      else orderStatusOf db other) :
    Stamped soId full db
      { db with salesOrders := db.salesOrders.updateKey k set hset } := by
  refine ⟨⟨rfl, rfl, rfl⟩, rfl, rfl, rfl, rfl, isMemoOf_updateKey hparent htype, ?_, hstatus⟩
  intro order horder
  have hupdated : order ∈ (db.salesOrders.updateKey k set hset).rows := horder
  obtain ⟨old, hold, rfl⟩ := Table.exists_of_mem_updateKey hupdated
  refine ⟨old, hold, ?_⟩
  by_cases hkey : old.soId = k
  · rw [if_pos hkey, hparent]
  · rw [if_neg hkey]

theorem stamped_markRefunded (now soId refundSoId : ℕ) (db : Db) :
    Stamped soId true db (markRefunded now soId refundSoId db) := by
  refine stamped_updateKey (fun _ => rfl) (fun _ => rfl) fun other => ?_
  simp only [orderStatusOf, Table.find?_updateKey]
  by_cases hother : other = soId
  · simp [hother, Option.map_map, Function.comp_def]
  · simp [hother]

theorem stamped_cacheResponse (soId k : ℕ) (response : PosResponse) (db : Db) :
    Stamped soId false db (cacheResponse k response db) := by
  refine stamped_updateKey (fun _ => rfl) (fun _ => rfl) fun other => ?_
  simp only [orderStatusOf, Table.find?_updateKey]
  by_cases hother : other = k
  · simp [hother, Option.map_map, Function.comp_def]
  · simp [hother]

/-- Which orders are memos once a memo is inserted. -/
theorem isMemoOf_insert (db : Db) (memo : SalesOrder) (soId memoId : ℕ) :
    isMemoOf { db with
        salesOrders := db.salesOrders.insert fun k => { memo with soId := k } }
      soId memoId =
      if memoId = db.salesOrders.nextKey then
        decide (memo.parentSoId = some soId ∧ memo.orderType = .refund)
      else isMemoOf db soId memoId := by
  simp only [isMemoOf, Table.find?_insert]
  by_cases hkey : memoId = db.salesOrders.nextKey
  · simp [hkey]
  · simp [hkey]

/-- The table of orders after a refund: the memo is new, and the sale may be marked. -/
theorem memo_after {db opened credited marked : Db} {memo : SalesOrder}
    {action : AuditAction} {method : PaymentMethod} {lines : List PosLine}
    (hopened : opened = { db with
      salesOrders := db.salesOrders.insert fun k => { memo with soId := k } })
    (hparent : memo.parentSoId = some soId) (htype : memo.orderType = .refund)
    (hcredited : credited.salesOrders = opened.salesOrders)
    (hmarked : Stamped soId full credited marked)
    (hfinal : db' = cacheResponse k response (writePosAudit action k method lines marked))
    (other memoId : ℕ) :
    isMemoOf db' other memoId =
      if memoId = db.salesOrders.nextKey then decide (other = soId)
      else isMemoOf db other memoId := by
  have hsame : isMemoOf db' = isMemoOf opened := by
    calc
      isMemoOf db' = isMemoOf (writePosAudit action k method lines marked) := by
        rw [hfinal]
        exact (stamped_cacheResponse soId k response _).memo
      _ = isMemoOf marked := rfl
      _ = isMemoOf credited := hmarked.memo
      _ = isMemoOf opened := by
        funext other memoId
        rw [isMemoOf, isMemoOf, hcredited]
  rw [hsame, hopened, isMemoOf_insert, hparent, htype]
  by_cases hkey : memoId = db.salesOrders.nextKey
  · rw [if_pos hkey, if_pos hkey]
    simp [eq_comm]
  · rw [if_neg hkey, if_neg hkey]

/-- The tables of the ledger after the memo and its credit lines. -/
theorem bookRefund_refunded {db : Db} {body : RefundBody} {original : SalesOrder}
    (hreferences : References db) (hstored : original ∈ db.salesOrders.rows)
    (hlines : locate db (lines.map Located.line) = lines)
    (hok : bookRefund ctx db body original sold lines = .ok (db', response)) :
    Refunded original.soId (fullyRefunds db original.soId sold lines) lines db
      db' := by
  simp only [bookRefund, bind_eq_ok, pure_eq_ok, Prod.mk.injEq] at hok
  obtain ⟨soNumber, -, opened, hopened, credited, hcredited, hfinal, -⟩ := hok
  simp only [insertPosOrder, bind_eq_ok, require_eq_ok, pure_eq_ok] at hopened
  obtain ⟨-, -, hopened⟩ := hopened
  have hwritten := creditLines_credited hcredited
  generalize fullyRefunds db original.soId sold lines = full at hfinal ⊢
  obtain ⟨marked, hmarked, hstamped⟩ : ∃ marked,
      (if full then markRefunded ctx.now original.soId db.salesOrders.nextKey credited
        else credited) = marked ∧ Stamped original.soId full credited marked := by
    cases full with
    | true => exact ⟨_, rfl, stamped_markRefunded ..⟩
    | false => exact ⟨_, rfl, Stamped.refl ..⟩
  rw [hmarked] at hfinal
  have hmemo := memo_after hopened.symm rfl rfl hwritten.salesOrders hstamped hfinal.symm
  have hcached := stamped_cacheResponse original.soId db.salesOrders.nextKey
    (.refund soNumber original.soNumber full)
    (writePosAudit .posRefund db.salesOrders.nextKey body.paymentMethod
      (lines.map Located.line) marked)
  rw [hfinal] at hcached
  have hold : ∀ soId memoId, memoId < db.salesOrders.nextKey →
      isMemoOf db' soId memoId = isMemoOf db soId memoId := by
    intro soId memoId hlt
    rw [hmemo, if_neg hlt.ne]
  have hcodes : SameCodes db db' := by
    have hopenedCodes : SameCodes db opened := hopened ▸ ⟨rfl, rfl, rfl⟩
    have hauditCodes : SameCodes marked db' :=
      ⟨hcached.codes.items, hcached.codes.warehouses, hcached.codes.bins⟩
    exact ((hopenedCodes.trans hwritten.codes).trans hstamped.codes).trans hauditCodes
  have hopenedLines : opened.salesOrderLines = db.salesOrderLines := hopened ▸ rfl
  have hopenedAudit : opened.auditLog = db.auditLog := hopened ▸ rfl
  have hopenedInventory : opened.inventory = db.inventory := hopened ▸ rfl
  have horderLines : db'.salesOrderLines = credited.salesOrderLines :=
    hcached.salesOrderLines.trans hstamped.salesOrderLines
  have hnextKey : db'.salesOrders.nextKey = db.salesOrders.nextKey + 1 := by
    rw [hcached.nextKey]
    change marked.salesOrders.nextKey = _
    rw [hstamped.nextKey, hwritten.salesOrders, ← hopened]
    rfl
  have haudit : db'.auditLog = db.auditLog.insert (fun logId =>
      { logId := logId
        actionType := .posRefund
        entityId := db.salesOrders.nextKey
        paymentMethod := body.paymentMethod
        lines := lines.map Located.line }) fun _ => rfl := by
    rw [hcached.auditLog]
    simp only [writePosAudit, hstamped.auditLog, hwritten.auditLog, hopenedAudit]
  refine ⟨hcodes, hreferences.extend hnextKey ?_ ?_ ?_, ?_, ?_, ?_, ?_, hnextKey, ?_⟩
  · intro line hline
    rw [horderLines] at hline
    exact hopenedLines ▸ hwritten.orderLines line hline
  · intro entry hentry
    rw [haudit] at hentry
    rcases List.mem_append.mp hentry with hkept | hnew
    · exact Or.inl hkept
    · rw [List.mem_singleton.mp hnew]
      exact Or.inr rfl
  · intro order horder
    obtain ⟨stamped, hstampedMem, hparents⟩ := hcached.parents order horder
    obtain ⟨credit, hcreditMem, hcreditParent⟩ := hstamped.parents stamped hstampedMem
    rw [hwritten.salesOrders, ← hopened] at hcreditMem
    rw [hparents, hcreditParent]
    rcases List.mem_append.mp hcreditMem with hkept | hnew
    · exact Or.inl ⟨credit, hkept, rfl⟩
    · rw [List.mem_singleton.mp hnew]
      refine Or.inr fun parent hparent => ?_
      rw [← Option.some.inj hparent]
      exact db.salesOrders.keys_lt original hstored
  · intro other itemId
    have hsum := hwritten.shipped (isMemoOf db' other) itemId
    rw [hmemo other db.salesOrders.nextKey, if_pos rfl] at hsum
    simp only [decide_eq_true_eq] at hsum
    rw [refundedOf, horderLines, hsum, hopenedLines, refundedOf]
    congr 1
    · apply Table.sum_congr
      intro line hline
      rw [hold _ _ (hreferences.lines line hline)]
    · simp only [unitsOf, unitsOver_lockOrder]
  · intro other
    have hkept : db.auditLog.rows.filter (isRefundOf db' other) =
        db.auditLog.rows.filter (isRefundOf db other) := by
      apply List.filter_congr
      intro entry hentry
      rw [isRefundOf, isRefundOf, hold _ _ (hreferences.entries entry hentry)]
    have hlocate : (fun entry : AuditEntry => locate db' entry.lines) =
        fun entry => locate db entry.lines := by
      funext entry
      exact hcodes.locate entry.lines
    simp only [refundedLines, Table.select, haudit, Table.insert, List.filter_append,
      List.flatMap_append, hkept, hlocate]
    congr 1
    rw [List.filter_singleton, isRefundOf, hmemo other db.salesOrders.nextKey, if_pos rfl]
    by_cases hother : other = original.soId
    · simp [hother, hlines]
    · simp [hother]
  · intro other
    simp [checkoutAudit?, haudit, Table.insert, List.find?_append]
  · intro other hlt
    have hmarkedStatus : orderStatusOf db' other = orderStatusOf marked other :=
      (hcached.status other).trans (if_neg (by simp))
    have hopenedStatus : orderStatusOf credited other = orderStatusOf db other := by
      rw [orderStatusOf, hwritten.salesOrders, ← hopened, orderStatusOf,
        Table.find?_insert, if_neg hlt.ne]
    rw [hmarkedStatus, hstamped.status, hopenedStatus]
  · intro places
    have hinventory : db'.inventory = credited.inventory :=
      hcached.inventory.trans hstamped.inventory
    rw [onHandOver, hinventory, ← onHandOver, hwritten.onHand, unitsOver_lockOrder,
      onHandOver, hopenedInventory, ← onHandOver]

/-! ## What a refund checks -/

/-- What an accepted refund has found out about its sale and its lines. -/
structure Checked (db : Db) (checked : CheckedRefund) : Prop where
  stored : checked.original ∈ db.salesOrders.rows
  shipped : checked.original.status = .soShipped
  entry : ∃ entry, checkoutAudit? db checked.original.soId = some entry ∧
    locate db entry.lines = checked.sold
  within : withinSale db checked.original.soId checked.sold checked.lines
  located : locate db (checked.lines.map Located.line) = checked.lines
  valid : ∀ line ∈ checked.lines, line ∈ checked.sold ∨ 0 ≤ line.quantity
  location : ∀ line ∈ checked.lines,
    unitsAt checked.lines line.place ≤ unitsAt checked.sold line.place

theorem linesToRefund_spec {db : Db} {body : RefundBody}
    (hsold : locate db (sold.map Located.line) = sold)
    (hok : linesToRefund db sold body = .ok lines) :
    locate db (lines.map Located.line) = lines ∧ (∀ line ∈ lines, line ∈ sold ∨ 0 ≤ line.quantity) ∧
      ∀ line ∈ lines, unitsAt lines line.place ≤ unitsAt sold line.place := by
  unfold linesToRefund at hok
  split at hok
  · simp only [pure_eq_ok] at hok
    subst hok
    exact ⟨hsold, fun line hline => Or.inl hline, fun line _ => le_refl _⟩
  · rename_i requested hrequested
    simp only [bind_eq_ok, require_eq_ok, pure_eq_ok] at hok
    obtain ⟨-, hall, -, hwithin, rfl⟩ := hok
    refine ⟨by rw [locate_lines hall], fun line hline => Or.inr ?_,
      fun line hline => ?_⟩
    · have hvalid := (body.lines_valid requested hrequested).2
      exact (hvalid line.line (locate_mem hline)).1.le
    · obtain ⟨numbered, -, hlocated⟩ := List.mem_filterMap.mp hline
      rw [← unitsAtCodes_eq hlocated, ← hsold, ← unitsAtCodes_eq hlocated, hsold]
      exact (hwithin line hline).2

theorem checkRefund_checked {db : Db} {body : RefundBody}
    (hok : checkRefund ctx db body = .ok checked) : Checked db checked := by
  simp only [checkRefund, bind_eq_ok, require_eq_ok, pure_eq_ok] at hok
  obtain ⟨⟨original, entry⟩, hsale, lines, hlines, -, hwithin, rfl⟩ := hok
  simp only [refundableSale, bind_eq_ok, require_eq_ok, orThrow_eq_ok, pure_eq_ok,
    Prod.mk.injEq] at hsale
  obtain ⟨-, -, original, hfound, -, -, -, hshipped, -, -, entry, hentry, -, -, -, -, -,
    hall, rfl, rfl⟩ := hsale
  obtain ⟨hlocated, hvalid, hlocation⟩ :=
    linesToRefund_spec (by rw [locate_lines hall]) hlines
  exact ⟨List.mem_of_find?_eq_some hfound, hshipped, ⟨entry, hentry, rfl⟩, hwithin,
    hlocated, hvalid, hlocation⟩

/-! ## Runs of refunds -/

/-- A refund with the token and clock it is served under. -/
structure RefundCall where
  ctx : RequestContext
  body : RefundBody

/-- The state after a refund request. -/
def serveRefund (db : Db) (call : RefundCall) : Db := committed db (refund call.ctx db call.body)

/-- A refund leaves the state alone, or is a checked one that is booked. -/
theorem serveRefund_cases {db : Db} (hreferences : References db) (call : RefundCall) :
    serveRefund db call = db ∨
      replay? db "idempotency_key matches an existing refund but body differs"
        call.body.idempotencyKey call.body.bodyHash = none ∧
      ∃ checked, checkRefund call.ctx db call.body = .ok checked ∧ Checked db checked ∧
        Refunded checked.original.soId
          (fullyRefunds db checked.original.soId checked.sold checked.lines) checked.lines db
          (serveRefund db call) := by
  unfold serveRefund
  cases houtcome : refund call.ctx db call.body with
  | error refusal => exact Or.inl rfl
  | ok served =>
      rw [refund] at houtcome
      cases hreplay : replay? db "idempotency_key matches an existing refund but body differs"
          call.body.idempotencyKey call.body.bodyHash with
      | some answer =>
          rw [hreplay] at houtcome
          cases answer with
          | error refusal => cases houtcome
          | ok response =>
              cases houtcome
              exact Or.inl rfl
      | none =>
          rw [hreplay] at houtcome
          simp only [newRefund, bind_eq_ok] at houtcome
          obtain ⟨checked, hok, hbooked⟩ := houtcome
          have hchecked := checkRefund_checked hok
          exact Or.inr ⟨rfl, checked, hok, hchecked,
            bookRefund_refunded hreferences hchecked.stored hchecked.located hbooked⟩

/-- The ledger of one sale: what it sold, and what its refunds have put back. -/
structure SaleLedger (soId : ℕ) (sold : List Located) (counter : Prop) (db : Db) :
    Prop where
  references : References db
  stored : soId < db.salesOrders.nextKey
  entry : ∃ entry, checkoutAudit? db soId = some entry ∧ locate db entry.lines = sold
  sold_nonneg : ∀ line ∈ sold, 0 ≤ line.quantity
  refunded_nonneg : ∀ line ∈ refundedLines db soId, 0 ≤ line.quantity
  refundedOf : ∀ itemId, refundedOf db soId itemId = unitsOf (refundedLines db soId) itemId
  withinItem : ∀ itemId, Pos.refundedOf db soId itemId ≤ unitsOf sold itemId
  full : orderStatusOf db soId = some .soRefunded →
    ∀ itemId, Pos.refundedOf db soId itemId = unitsOf sold itemId
  counter : orderStatusOf db soId = some .soShipped ∨
    orderStatusOf db soId = some .soRefunded → counter

/-- A full refund refunds every item. -/
theorem fullyRefunds_spec {db : Db} (hfull : fullyRefunds db soId sold lines = true)
    (hline : line ∈ sold) :
    refundedOf db soId line.itemId + unitsOf lines line.itemId =
      unitsOf sold line.itemId := by
  simpa using List.all_eq_true.mp hfull line hline

theorem unitsOf_eq_zero {itemId : ℕ} (hnone : ∀ line ∈ lines, line.itemId ≠ itemId) :
    unitsOf lines itemId = 0 :=
  totalOver_eq_zero _ fun line hline => decide_eq_false (hnone line hline)

/-- An item the request does not name keeps its total; one it names stays within the
sale by the guard. -/
theorem Checked.withinItem {db : Db} (hchecked : Checked db checked) (itemId : ℕ)
    (hbefore : refundedOf db checked.original.soId itemId ≤ unitsOf checked.sold itemId) :
    refundedOf db checked.original.soId itemId + unitsOf checked.lines itemId ≤
      unitsOf checked.sold itemId := by
  by_cases hnamed : ∃ line ∈ checked.lines, line.itemId = itemId
  · obtain ⟨line, hline, rfl⟩ := hnamed
    exact hchecked.within line hline
  · have hnone : ∀ line ∈ checked.lines, line.itemId ≠ itemId := by
      simpa using hnamed
    rw [unitsOf_eq_zero hnone, add_zero]
    exact hbefore

/-- A refund of the sale itself. -/
theorem SaleLedger.refunded {counter : Prop} {db : Db}
    (hledger : SaleLedger soId sold counter db) (hchecked : Checked db checked)
    (hsale : checked.original.soId = soId) (hsold : checked.sold = sold)
    (hrefunded : Refunded soId (fullyRefunds db soId sold checked.lines) checked.lines
      db db') : SaleLedger soId sold counter db' := by
  have hof : ∀ itemId, Pos.refundedOf db' soId itemId =
      Pos.refundedOf db soId itemId + unitsOf checked.lines itemId := by
    intro itemId
    rw [hrefunded.refundedOf, if_pos rfl]
  have hlines : refundedLines db' soId = refundedLines db soId ++ checked.lines := by
    rw [hrefunded.refundedLines, if_pos rfl]
  have hnonneg : ∀ line ∈ refundedLines db' soId, 0 ≤ line.quantity := by
    intro line hline
    rw [hlines] at hline
    rcases List.mem_append.mp hline with hold | hnew
    · exact hledger.refunded_nonneg line hold
    · cases hchecked.valid line hnew with
      | inl hmem => exact hledger.sold_nonneg line (hsold ▸ hmem)
      | inr hpositive => exact hpositive
  have hlink : ∀ itemId, Pos.refundedOf db' soId itemId =
      unitsOf (refundedLines db' soId) itemId := by
    intro itemId
    rw [hof, hlines, hledger.refundedOf]
    simp [unitsOf, unitsOver]
  have hwithin : ∀ itemId, Pos.refundedOf db' soId itemId ≤ unitsOf sold itemId := by
    intro itemId
    rw [hof, ← hsold, ← hsale]
    apply hchecked.withinItem
    rw [hsale, hsold]
    exact hledger.withinItem itemId
  have hstatus : orderStatusOf db soId = some .soShipped := by
    have hfind := Table.find?_eq_some_iff.mpr ⟨hchecked.stored, rfl⟩
    rw [← hsale, orderStatusOf, hfind, Option.map_some, hchecked.shipped]
  refine ⟨hrefunded.references, ?_, ?_, hledger.sold_nonneg, hnonneg, hlink, hwithin,
    ?_, fun _ => hledger.counter (Or.inl hstatus)⟩
  · rw [hrefunded.nextKey]
    exact Nat.lt_succ_of_lt hledger.stored
  · obtain ⟨entry, hentry, hlocated⟩ := hledger.entry
    exact ⟨entry, (hrefunded.checkoutAudit soId).trans hentry,
      (hrefunded.codes.locate entry.lines).trans hlocated⟩
  · intro hmarked itemId
    rw [hrefunded.status soId hledger.stored, hstatus] at hmarked
    by_cases hfull : fullyRefunds db soId sold checked.lines = true
    · by_cases hnamed : ∃ line ∈ sold, line.itemId = itemId
      · obtain ⟨line, hline, rfl⟩ := hnamed
        rw [hof]
        exact fullyRefunds_spec hfull hline
      · have hnone : ∀ line ∈ sold, line.itemId ≠ itemId := by
          simpa using hnamed
        have hbelow := hwithin itemId
        have habove : 0 ≤ Pos.refundedOf db' soId itemId := by
          rw [hlink]
          exact totalOver_nonneg _ hnonneg
        rw [unitsOf_eq_zero hnone] at hbelow ⊢
        exact le_antisymm hbelow habove
    · rw [if_neg (fun hboth => hfull hboth.2)] at hmarked
      cases hmarked

/-- A refund of another sale. -/
theorem SaleLedger.other {other : ℕ} {counter : Prop} {db : Db}
    (hledger : SaleLedger soId sold counter db) (hother : soId ≠ other)
    (hrefunded : Refunded other full lines db db') :
    SaleLedger soId sold counter db' := by
  have hof : ∀ itemId,
      Pos.refundedOf db' soId itemId = Pos.refundedOf db soId itemId := by
    intro itemId
    rw [hrefunded.refundedOf, if_neg hother, add_zero]
  have hlines : refundedLines db' soId = refundedLines db soId := by
    rw [hrefunded.refundedLines, if_neg hother, List.append_nil]
  have hstatus : orderStatusOf db' soId = orderStatusOf db soId := by
    rw [hrefunded.status soId hledger.stored, if_neg fun hboth => hother hboth.1]
  refine ⟨hrefunded.references, ?_, ?_, hledger.sold_nonneg, ?_, ?_, ?_, ?_, ?_⟩
  · rw [hrefunded.nextKey]
    exact Nat.lt_succ_of_lt hledger.stored
  · obtain ⟨entry, hentry, hlocated⟩ := hledger.entry
    exact ⟨entry, (hrefunded.checkoutAudit soId).trans hentry,
      (hrefunded.codes.locate entry.lines).trans hlocated⟩
  · rw [hlines]
    exact hledger.refunded_nonneg
  · intro itemId
    rw [hof, hlines]
    exact hledger.refundedOf itemId
  · intro itemId
    rw [hof]
    exact hledger.withinItem itemId
  · intro hmarked itemId
    rw [hof]
    exact hledger.full (hstatus ▸ hmarked) itemId
  · rw [hstatus]
    exact hledger.counter

/-- The sale of a refund has one checkout entry, so it is known what was sold. -/
theorem Checked.sold_eq {counter : Prop} {db : Db}
    (hledger : SaleLedger soId sold counter db) (hchecked : Checked db checked)
    (hsale : checked.original.soId = soId) : checked.sold = sold := by
  obtain ⟨entry, hentry, hlocated⟩ := hledger.entry
  obtain ⟨found, hfound, hsold⟩ := hchecked.entry
  rw [hsale, hentry] at hfound
  rw [← hsold, ← hlocated, Option.some.inj hfound]

/-- Any refund request keeps the ledger of the sale. -/
theorem SaleLedger.serve {counter : Prop} {db : Db}
    (hledger : SaleLedger soId sold counter db) (call : RefundCall) :
    SaleLedger soId sold counter (serveRefund db call) := by
  rcases serveRefund_cases hledger.references call with
    hsame | ⟨-, checked, -, hchecked, hrefunded⟩
  · rw [hsame]
    exact hledger
  · by_cases hsale : checked.original.soId = soId
    · have hsold := hchecked.sold_eq hledger hsale
      rw [hsale, hsold] at hrefunded
      exact hledger.refunded hchecked hsale hsold hrefunded
    · exact hledger.other (fun h => hsale h.symm) hrefunded

/-! ## Locations -/

/-- The request is for the sale. -/
def RefundsSale (soId : ℕ) (db : Db) (call : RefundCall) : Prop :=
  (originalSale? call.ctx db call.body.originalSoNumber).any fun original => original.soId = soId

/-- The request passes its checks as a refund of the sale, and asks a location for
more than is left there of what it sold. -/
def Overdraws (soId : ℕ) (db : Db) (call : RefundCall) : Prop :=
  replay? db "idempotency_key matches an existing refund but body differs"
      call.body.idempotencyKey call.body.bodyHash = none ∧
    match checkRefund call.ctx db call.body with
    | .ok checked =>
        checked.original.soId = soId ∧ ∃ line ∈ checked.lines,
          unitsAt checked.sold line.place <
            refundedAt db soId line.place + unitsAt checked.lines line.place
    | .error _ => False

instance (soId : ℕ) (db : Db) (call : RefundCall) : Decidable (RefundsSale soId db call) := by
  unfold RefundsSale
  infer_instance

instance (soId : ℕ) (db : Db) (call : RefundCall) : Decidable (Overdraws soId db call) := by
  unfold Overdraws
  split <;> infer_instance

theorem checkRefund_named {db : Db} {body : RefundBody}
    (hok : checkRefund ctx db body = .ok checked) :
    originalSale? ctx db body.originalSoNumber = some checked.original := by
  simp only [checkRefund, bind_eq_ok, require_eq_ok, pure_eq_ok] at hok
  obtain ⟨⟨original, entry⟩, hsale, lines, -, -, -, rfl⟩ := hok
  simp only [refundableSale, bind_eq_ok, require_eq_ok, orThrow_eq_ok, pure_eq_ok,
    Prod.mk.injEq] at hsale
  obtain ⟨-, -, original, hfound, -, -, -, -, -, -, -, -, -, -, -, -, -, -, rfl, -⟩ := hsale
  exact hfound

theorem named_or_zero (lines : List Located) (place : Place) :
    (∃ line ∈ lines, line.place = place) ∨ unitsAt lines place = 0 := by
  refine or_iff_not_imp_left.mpr fun hnamed => ?_
  apply totalOver_eq_zero (fun other => decide (other = place))
  intro line hline
  exact decide_eq_false fun hsame => hnamed ⟨line, hline, hsame⟩

/-- The ledger of a sale with every location within what was sold there. -/
structure LocatedLedger (soId : ℕ) (sold : List Located) (counter : Prop) (db : Db) :
    Prop where
  ledger : SaleLedger soId sold counter db
  withinPlace : ∀ place, refundedAt db soId place ≤ unitsAt sold place

theorem LocatedLedger.serve {counter : Prop} {db : Db}
    (hlocated : LocatedLedger soId sold counter db) (call : RefundCall)
    (hfits : ¬ Overdraws soId db call) :
    LocatedLedger soId sold counter (serveRefund db call) := by
  refine ⟨hlocated.ledger.serve call, fun place => ?_⟩
  rcases serveRefund_cases hlocated.ledger.references call with
    hsame | ⟨hnew, checked, hok, hchecked, hrefunded⟩
  · rw [hsame]
    exact hlocated.withinPlace place
  · rw [refundedAt, refundedOver, hrefunded.refundedLines]
    by_cases hsale : checked.original.soId = soId
    · have hsold := hchecked.sold_eq hlocated.ledger hsale
      have hadded : unitsOver (fun other => decide (other = place))
          (refundedLines db soId ++ checked.lines) =
          refundedAt db soId place + unitsAt checked.lines place := by
        simp [refundedAt, refundedOver, unitsAt, unitsOver]
      rw [if_pos hsale.symm, hadded]
      rcases named_or_zero checked.lines place with ⟨line, hline, rfl⟩ | hnone
      · by_contra hover
        refine hfits ⟨hnew, ?_⟩
        rw [hok]
        exact ⟨hsale, line, hline, hsold ▸ lt_of_not_ge hover⟩
      · rw [hnone, add_zero]
        exact hlocated.withinPlace place
    · rw [if_neg fun h => hsale h.symm, List.append_nil]
      exact hlocated.withinPlace place

/-- No refund puts more on a location than the sale took there. -/
theorem SaleLedger.withinLocation {counter : Prop} {db : Db}
    (hledger : SaleLedger soId sold counter db) (call : RefundCall) (place : Place) :
    refundedAt (serveRefund db call) soId place ≤
      refundedAt db soId place + unitsAt sold place := by
  have hnonneg : 0 ≤ unitsAt sold place :=
    totalOver_nonneg (fun other => decide (other = place)) hledger.sold_nonneg
  rcases serveRefund_cases hledger.references call with
    hsame | ⟨-, checked, -, hchecked, hrefunded⟩
  · rw [hsame]
    omega
  · by_cases hsale : checked.original.soId = soId
    · have hsold := hchecked.sold_eq hledger hsale
      have hadded : unitsAt checked.lines place ≤ unitsAt sold place := by
        rcases named_or_zero checked.lines place with ⟨line, hline, rfl⟩ | hnone
        · exact hsold ▸ hchecked.location line hline
        · rw [hnone]
          exact hnonneg
      rw [refundedAt, refundedOver, hrefunded.refundedLines, if_pos hsale.symm]
      simp only [unitsOver, totalOver_append]
      exact add_le_add_right hadded _
    · rw [refundedAt, refundedOver, hrefunded.refundedLines,
        if_neg fun h => hsale h.symm, List.append_nil]
      exact le_add_of_nonneg_right hnonneg

/-- A refund of the sale puts on the shelves what it adds to the ledger. -/
theorem onHandOver_serveRefund {db : Db} (hreferences : References db)
    {call : RefundCall} (hsale : RefundsSale soId db call) (places : Place → Bool) :
    onHandOver places (serveRefund db call) - onHandOver places db =
      refundedOver (serveRefund db call) soId places -
        refundedOver db soId places := by
  rcases serveRefund_cases hreferences call with hsame | ⟨-, checked, hok, -, hrefunded⟩
  · rw [hsame]
    omega
  · have hsame : checked.original.soId = soId := by
      simpa [RefundsSale, checkRefund_named hok] using hsale
    have hlines := hrefunded.refundedLines soId
    rw [if_pos hsame.symm] at hlines
    rw [refundedOver, hlines, hrefunded.onHand places, refundedOver]
    simp only [unitsOver, totalOver_append]
    omega

/-- A refund of another sale leaves the ledger alone. -/
theorem refundedOver_serveRefund {db : Db} (hreferences : References db)
    {call : RefundCall} (hother : ¬ RefundsSale soId db call) (places : Place → Bool) :
    refundedOver (serveRefund db call) soId places = refundedOver db soId places := by
  rcases serveRefund_cases hreferences call with hsame | ⟨-, checked, hok, -, hrefunded⟩
  · rw [hsame]
  · have hne : soId ≠ checked.original.soId := by
      intro hsame
      exact hother (by simp [RefundsSale, checkRefund_named hok, hsame])
    rw [refundedOver, hrefunded.refundedLines, if_neg hne, List.append_nil, refundedOver]

/-! ## What a checkout sells -/

/-- The lines of a new order: the tables of the ledger, and what was taken. -/
structure Rung (soId : ℕ) (db db' : Db) : Prop where
  codes : SameCodes db db'
  salesOrders : db'.salesOrders = db.salesOrders
  auditLog : db'.auditLog = db.auditLog
  orderLines : ∀ line ∈ db'.salesOrderLines.rows, line ∈ db.salesOrderLines.rows ∨ line.soId = soId

theorem Rung.refl (soId : ℕ) (db : Db) : Rung soId db db :=
  ⟨SameCodes.refl db, rfl, rfl, fun _ => Or.inl⟩

theorem Rung.trans {middle : Db} (hfirst : Rung soId before middle)
    (hsecond : Rung soId middle after) : Rung soId before after := by
  refine ⟨hfirst.codes.trans hsecond.codes, hsecond.salesOrders.trans hfirst.salesOrders,
    hsecond.auditLog.trans hfirst.auditLog, fun line hline => ?_⟩
  cases hsecond.orderLines line hline with
  | inl hmiddle => exact hfirst.orderLines line hmiddle
  | inr hnew => exact Or.inr hnew

theorem rung_insertPosLine (soId itemId : ℕ) (ordered allocated moved : ℤ)
    (lineNumber : ℕ) (status : LineStatus) (db : Db) :
    Rung soId db
      (insertPosLine soId itemId ordered allocated moved lineNumber status db) := by
  refine ⟨⟨rfl, rfl, rfl⟩, rfl, rfl, fun line hline => ?_⟩
  rcases List.mem_append.mp hline with hold | hnew
  · exact Or.inl hold
  · rw [List.mem_singleton.mp hnew]
    exact Or.inr rfl

theorem rung_orderLine (soId : ℕ) (db : Db) (numbered : PosLine × ℕ) :
    Rung soId db (orderLine soId db numbered) := by
  unfold orderLine
  split
  · exact rung_insertPosLine ..
  · exact Rung.refl soId db

theorem sellLine_rung {isPhoneOrder : Bool} {db : Db}
    (hok : sellLine ctx isPhoneOrder soId db line = .ok db') : Rung soId db db' := by
  simp only [sellLine, bind_eq_ok, require_eq_ok, orThrow_eq_ok] at hok
  obtain ⟨row, -, -, -, hok⟩ := hok
  cases isPhoneOrder <;> simp only [if_true, Bool.false_eq_true, if_false, pure_eq_ok]
    at hok <;> subst hok
  · exact (rung_insertPosLine soId line.itemId line.quantity 0 line.quantity
      (line.idx + 1) _ db).trans ⟨⟨rfl, rfl, rfl⟩, rfl, rfl, fun _ => Or.inl⟩
  · exact (rung_insertPosLine soId line.itemId line.quantity line.quantity 0
      (line.idx + 1) _ db).trans ⟨⟨rfl, rfl, rfl⟩, rfl, rfl, fun _ => Or.inl⟩

theorem sellLines_rung {isPhoneOrder : Bool} {db : Db}
    (hok : sellLines ctx isPhoneOrder soId lines db = .ok db') : Rung soId db db' := by
  induction lines generalizing db with
  | nil =>
      simp only [sellLines, pure_eq_ok] at hok
      exact hok ▸ Rung.refl soId db
  | cons line rest ih =>
      simp only [sellLines, bind_eq_ok] at hok
      obtain ⟨middle, hline, hrest⟩ := hok
      exact (sellLine_rung hline).trans (ih hrest)

theorem rung_emitEvent (soId : ℕ) (ctx : RequestContext) (eventType : EventType)
    (aggregateId warehouseId : ℕ) (db : Db) :
    Rung soId db (emitEvent ctx eventType aggregateId warehouseId db) := by
  unfold emitEvent
  split
  · exact Rung.refl soId db
  · exact ⟨⟨rfl, rfl, rfl⟩, rfl, rfl, fun _ => Or.inl⟩

theorem applyLines_rung {warehouseId : ℕ} {body : CheckoutBody} {db : Db}
    (hok : applyLines ctx soId warehouseId body db = .ok db') : Rung soId db db' := by
  unfold applyLines at hok
  split at hok
  · simp only [pure_eq_ok] at hok
    subst hok
    have hordered : ∀ (inputs : List (PosLine × ℕ)) (state : Db),
        Rung soId state (run (orderLine soId) state inputs) := by
      intro inputs
      induction inputs with
      | nil => exact fun state => Rung.refl soId state
      | cons input rest ih =>
          exact fun state => (rung_orderLine soId state input).trans (ih _)
    exact (hordered _ _).trans (rung_emitEvent ..)
  · exact sellLines_rung hok

/-- A counter sale takes each line's units from the shelf the line names. -/
theorem sellLines_onHand {db : Db} (hok : sellLines ctx false soId lines db = .ok db')
    (places : Place → Bool) :
    onHandOver places db' = onHandOver places db - unitsOver places lines := by
  induction lines generalizing db with
  | nil =>
      simp only [sellLines, pure_eq_ok] at hok
      simp [← hok, unitsOver]
  | cons line rest ih =>
      simp only [sellLines, bind_eq_ok] at hok
      obtain ⟨middle, hline, hrest⟩ := hok
      simp only [sellLine, bind_eq_ok, require_eq_ok, orThrow_eq_ok,
        Bool.false_eq_true, if_false, pure_eq_ok] at hline
      obtain ⟨row, hrow, -, -, rfl⟩ := hline
      obtain ⟨hstored, hplace⟩ := lineRow?_spec hrow
      have hinserted : row ∈ (insertPosLine soId line.itemId line.quantity 0
          line.quantity (line.idx + 1) (.ofOrder .soShipped) db).inventory.rows :=
        hstored
      rw [ih hrest, onHandOver_addOnHand places _ ctx.now (-line.quantity) hinserted, hplace]
      simp only [unitsOver, totalOver_cons, insertPosLine, onHandOver]
      by_cases hin : places line.place
      · simp only [hin, if_true]
        omega
      · simp only [hin, Bool.false_eq_true, if_false]
        omega

/-- The tables of the ledger after a checkout of a sale. -/
structure Opened (soId : ℕ) (body : CheckoutBody) (sold : List Located) (db db' : Db) :
    Prop where
  codes : SameCodes db db'
  references : References db'
  nextKey : db'.salesOrders.nextKey = soId + 1
  noMemo : ∀ memoId, isMemoOf db' soId memoId = false
  entry : (checkoutAudit? db' soId).map AuditEntry.lines = some body.lines
  status : orderStatusOf db' soId = some (checkoutStatus body)
  onHand : checkoutStatus body = .soShipped → ∀ places,
    onHandOver places db' = onHandOver places db - unitsOver places sold

/-- No order that was there before has the new order as its parent. -/
theorem noMemo_insert {db : Db} {order : SalesOrder} (hreferences : References db)
    (hparent : order.parentSoId = none) (memoId : ℕ) :
    isMemoOf { db with
        salesOrders := db.salesOrders.insert fun k => { order with soId := k } }
      db.salesOrders.nextKey memoId = false := by
  rw [isMemoOf_insert]
  by_cases hnew : memoId = db.salesOrders.nextKey
  · simp [hnew, hparent]
  · rw [if_neg hnew, isMemoOf]
    cases hfound : db.salesOrders.find? memoId with
    | none => rfl
    | some stored =>
        have hbelow := hreferences.parents stored
          (Table.find?_eq_some_iff.mp hfound).1 db.salesOrders.nextKey
        have hother : stored.parentSoId ≠ some db.salesOrders.nextKey :=
          fun hsame => lt_irrefl _ (hbelow hsame)
        simp [hother]

/-- The stock of a counter sale is taken in the lock order of its lines. -/
theorem applyLines_onHand {warehouseId : ℕ} {body : CheckoutBody} {db : Db}
    (hok : applyLines ctx soId warehouseId body db = .ok db')
    (hshipped : checkoutStatus body = .soShipped) (places : Place → Bool) :
    onHandOver places db' =
      onHandOver places db - unitsOver places (locate db body.lines) := by
  unfold applyLines at hok
  unfold checkoutStatus at hshipped
  by_cases hbackorder : body.backorder = true
  · rw [if_pos hbackorder] at hshipped
    cases hshipped
  · rw [if_neg hbackorder] at hok hshipped
    by_cases hphone : body.isPhoneOrder = true
    · rw [if_pos hphone] at hshipped
      cases hshipped
    · rw [Bool.not_eq_true] at hphone
      rw [hphone] at hok
      rw [sellLines_onHand hok, unitsOver_lockOrder]

theorem newCheckout_opened {code : String} {db : Db} {body : CheckoutBody}
    (hreferences : References db) (hsale : body.orderType = .sale)
    (hok : newCheckout ctx code db body = .ok (db', response)) :
    Opened db.salesOrders.nextKey body (locate db body.lines) db db' := by
  simp only [newCheckout, prepareCheckout, completeCheckout, bind_assoc, pure_bind] at hok
  simp only [checkoutNumber, hsale, if_true, bind_eq_ok, require_eq_ok, pure_eq_ok,
    Prod.mk.injEq] at hok
  obtain ⟨-, -, -, -, ⟨parentSoId, soNumber⟩, hnumber, warehouseId, -, opened, hopened,
    applied, happlied, returned, hreturned, hfinal, -⟩ := hok
  obtain ⟨rfl, rfl⟩ := Prod.mk.injEq _ _ _ _ ▸ hnumber
  simp only [openExchangeReturn, pure_eq_ok] at hreturned
  subst hreturned
  simp only [insertPosOrder, bind_eq_ok, require_eq_ok, pure_eq_ok] at hopened
  obtain ⟨-, -, hopened⟩ := hopened
  have hrung := applyLines_rung happlied
  have hcached := stamped_cacheResponse db.salesOrders.nextKey db.salesOrders.nextKey
    (.checkout s!"POS-{db.salesOrders.nextKey}")
    (writePosAudit .posCheckout db.salesOrders.nextKey body.paymentMethod body.lines applied)
  rw [hfinal] at hcached
  have hopenedCodes : SameCodes db opened := hopened ▸ ⟨rfl, rfl, rfl⟩
  have hauditCodes : SameCodes applied db' :=
    ⟨hcached.codes.items, hcached.codes.warehouses, hcached.codes.bins⟩
  have hnextKey : db'.salesOrders.nextKey = db.salesOrders.nextKey + 1 := by
    rw [hcached.nextKey]
    change applied.salesOrders.nextKey = _
    rw [hrung.salesOrders, ← hopened]
    rfl
  have haudit : db'.auditLog = db.auditLog.insert (fun logId =>
      { logId := logId
        actionType := .posCheckout
        entityId := db.salesOrders.nextKey
        paymentMethod := body.paymentMethod
        lines := body.lines }) fun _ => rfl := by
    rw [hcached.auditLog]
    simp only [writePosAudit, hrung.auditLog, ← hopened]
  refine ⟨(hopenedCodes.trans hrung.codes).trans hauditCodes,
    hreferences.extend hnextKey ?_ ?_ ?_, hnextKey, ?_, ?_, ?_, ?_⟩
  · intro line hline
    rw [hcached.salesOrderLines] at hline
    rcases hrung.orderLines line hline with hkept | hnew
    · rw [← hopened] at hkept
      exact Or.inl hkept
    · exact Or.inr hnew
  · intro entry hentry
    rw [haudit] at hentry
    rcases List.mem_append.mp hentry with hkept | hnew
    · exact Or.inl hkept
    · rw [List.mem_singleton.mp hnew]
      exact Or.inr rfl
  · intro order horder
    obtain ⟨old, hold, hparents⟩ := hcached.parents order horder
    have holdMem : old ∈ applied.salesOrders.rows := hold
    rw [hrung.salesOrders, ← hopened] at holdMem
    rw [hparents]
    rcases List.mem_append.mp holdMem with hkept | hnew
    · exact Or.inl ⟨old, hkept, rfl⟩
    · rw [List.mem_singleton.mp hnew]
      right
      intro parent hparent
      cases hparent
  · intro memoId
    rw [hcached.memo]
    have hsame : isMemoOf applied = isMemoOf opened := by
      funext other memoId
      rw [isMemoOf, isMemoOf, hrung.salesOrders]
    change isMemoOf applied _ _ = _
    rw [hsame, ← hopened]
    exact noMemo_insert hreferences rfl memoId
  · have hnone : db.auditLog.rows.find? (fun entry =>
        entry.entityId = db.salesOrders.nextKey ∧ entry.actionType = .posCheckout) =
        none := by
      rw [List.find?_eq_none]
      intro entry hentry hnew
      exact (hreferences.entries entry hentry).ne (of_decide_eq_true hnew).1
    rw [checkoutAudit?, haudit, Table.insert, List.find?_append, hnone]
    simp
  · rw [hcached.status, if_neg (by simp)]
    change orderStatusOf applied _ = _
    rw [orderStatusOf, hrung.salesOrders, ← hopened, Table.find?_insert, if_pos rfl]
    rfl
  · intro hshipped places
    have hinventory : db'.inventory = applied.inventory := hcached.inventory
    have honHand := applyLines_onHand happlied hshipped places
    rw [hopenedCodes.locate, ← hopened] at honHand
    rw [onHandOver, hinventory, ← onHandOver, honHand, onHandOver, onHandOver]

theorem Opened.saleLedger {body : CheckoutBody} {db : Db}
    (hopened : Opened soId body (locate db body.lines) db db') :
    SaleLedger soId (locate db body.lines) (checkoutStatus body = .soShipped) db' ∧
      refundedLines db' soId = [] := by
  have hnoLines : refundedLines db' soId = [] := by
    have hnone : db'.auditLog.select (isRefundOf db' soId) = [] := by
      rw [Table.select, List.filter_eq_nil_iff]
      intro entry hentry
      simp [isRefundOf, hopened.noMemo]
    rw [refundedLines, hnone, List.flatMap_nil]
  have hnoUnits : ∀ itemId, refundedOf db' soId itemId = 0 := by
    intro itemId
    apply List.sum_eq_zero
    intro value hvalue
    obtain ⟨line, -, rfl⟩ := List.mem_map.mp hvalue
    simp [hopened.noMemo]
  have hnonneg : ∀ line ∈ locate db body.lines, 0 ≤ line.quantity := by
    intro line hline
    exact (body.lines_valid line.line (locate_mem hline)).1.le
  refine ⟨⟨hopened.references, ?_, ?_, hnonneg, ?_, ?_, ?_, ?_, ?_⟩, hnoLines⟩
  · rw [hopened.nextKey]
    exact Nat.lt_succ_self soId
  · obtain ⟨entry, hentry, hlines⟩ := Option.map_eq_some_iff.mp hopened.entry
    exact ⟨entry, hentry, by rw [hlines, hopened.codes.locate]⟩
  · rw [hnoLines]
    exact fun line hline => absurd hline List.not_mem_nil
  · intro itemId
    rw [hnoUnits, hnoLines]
    rfl
  · intro itemId
    rw [hnoUnits]
    exact totalOver_nonneg _ hnonneg
  · intro hrefunded
    rw [hopened.status, checkoutStatus] at hrefunded
    split_ifs at hrefunded <;> cases hrefunded
  · intro hstatus
    rw [hopened.status] at hstatus
    rcases hstatus with hshipped | hrefunded
    · exact Option.some.inj hshipped
    · rw [checkoutStatus] at hrefunded
      split_ifs at hrefunded <;> cases hrefunded

/-! ## Runs from a checkout -/

/-- Over any run of refunds, the shelves at a set of places get from the refunds of
the sale what its ledger has there. -/
theorem SaleLedger.accrued_onHandOver {counter : Prop} {db : Db}
    (hledger : SaleLedger soId sold counter db) (hnothing : refundedLines db soId = [])
    (calls : List RefundCall) (places : Place → Bool) :
    accrued serveRefund (RefundsSale soId) (onHandOver places) db calls =
      refundedOver (run serveRefund db calls) soId places := by
  let back : Db → ℤ := fun state => refundedOver state soId places
  have hback : back db = 0 := by
    change refundedOver db soId places = 0
    rw [refundedOver, hnothing]
    rfl
  have haccrued : accrued serveRefund (RefundsSale soId) (onHandOver places) db calls =
      back (run serveRefund db calls) - back db := by
    refine accrued_eq ?_ ?_ ?_ hledger (along_forall (fun _ _ => trivial) db calls)
    · exact fun _ call hstep (_ : True) => hstep.serve call
    · exact fun _ _ hstep hnamed => onHandOver_serveRefund hstep.references hnamed places
    · exact fun _ _ hstep hother => refundedOver_serveRefund hstep.references hother places
  rw [haccrued, hback, sub_zero]

/-- The refunds of a sale, in any order and amounts.  No item is refunded beyond what
was sold of it and no request puts more on a location than the sale took there; once
the sale is refunded, every item is back in full.  While no request asks a location
for more than is left there, locations stay within the sale too, and once it is
refunded every location has got back what the sale took. -/
theorem refunds_withinSale {ctx : RequestContext} {code : String} {db sale : Db}
    {body : CheckoutBody} {response : PosResponse} (hreferences : References db)
    (hsale : body.orderType = .sale)
    (hok : newCheckout ctx code db body = .ok (sale, response))
    (calls : List RefundCall) :
    let soId := db.salesOrders.nextKey
    let sold := locate db body.lines
    let final := run serveRefund sale calls
    let putBack := fun places =>
      accrued serveRefund (RefundsSale soId) (onHandOver places) sale calls
    let taken := fun places => onHandOver places db - onHandOver places sale
    (∀ itemId, refundedOf final soId itemId ≤ unitsOf sold itemId) ∧
      Along serveRefund (fun state call => ∀ place,
        refundedAt (serveRefund state call) soId place ≤
          refundedAt state soId place + unitsAt sold place) sale calls ∧
      (orderStatusOf final soId = some .soRefunded →
        ∀ itemId, putBack (ofItem itemId) = taken (ofItem itemId)) ∧
      (Along serveRefund (fun state call => ¬ Overdraws soId state call) sale calls →
        (∀ place, refundedAt final soId place ≤ unitsAt sold place) ∧
          (orderStatusOf final soId = some .soRefunded → ∀ place,
            putBack (fun other => other = place) =
              taken fun other => other = place)) := by
  intro soId sold final putBack taken
  have hopened := newCheckout_opened hreferences hsale hok
  obtain ⟨hinit, hnothing⟩ := hopened.saleLedger
  have hanywhere : Along serveRefund (fun _ _ => True) sale calls :=
    along_forall (fun _ _ => trivial) sale calls
  have hfinal : SaleLedger soId sold (checkoutStatus body = .soShipped) final :=
    run_invariant (fun _ call hstep _ => hstep.serve call) hinit hanywhere
  have hputBack : ∀ places, putBack places = refundedOver final soId places :=
    hinit.accrued_onHandOver hnothing calls
  have htaken : orderStatusOf final soId = some .soRefunded →
      ∀ places, taken places = unitsOver places sold := by
    intro hmarked places
    have hshelves := hopened.onHand (hfinal.counter (Or.inr hmarked)) places
    change onHandOver places db - onHandOver places sale = unitsOver places sold
    rw [hshelves]
    exact sub_sub_cancel _ _
  have hitems : orderStatusOf final soId = some .soRefunded →
      ∀ itemId, refundedOver final soId (ofItem itemId) = unitsOf sold itemId := by
    intro hmarked itemId
    exact (hfinal.refundedOf itemId).symm.trans (hfinal.full hmarked itemId)
  refine ⟨hfinal.withinItem, ?_, ?_, ?_⟩
  · exact along_of_invariant (fun _ call hstep _ => hstep.serve call)
      (fun _ call hstep _ => hstep.withinLocation call) hinit hanywhere
  · intro hmarked itemId
    rw [hputBack, htaken hmarked, hitems hmarked]
    rfl
  · intro hfits
    have hlocated : LocatedLedger soId sold (checkoutStatus body = .soShipped) final := by
      refine run_invariant (fun _ call hstep hfit => hstep.serve call hfit)
        ⟨hinit, fun place => ?_⟩ hfits
      rw [refundedAt, refundedOver, hnothing]
      exact totalOver_nonneg (fun other => decide (other = place)) hinit.sold_nonneg
    refine ⟨hlocated.withinPlace, fun hmarked place => ?_⟩
    rw [hputBack, htaken hmarked]
    -- The item is back in full and no location has more than it sold, so each has all.
    exact totalAt_eq_of_group (ofItem place.itemId) hlocated.withinPlace
      (hitems hmarked place.itemId) (decide_eq_true rfl)

/-! ## A small shop -/

namespace SmallShop

/-- Five widgets in each of two bins of the shop. -/
def db : Db :=
  { SmallWarehouse.db with
    warehouses := Table.empty.insert fun warehouseId =>
      { warehouseId := warehouseId
        warehouseCode := "SHOP" }
    inventory := (Table.empty.insert fun inventoryId =>
        { inventoryId := inventoryId
          itemId := 1
          binId := 1
          warehouseId := 1
          quantityOnHand := 5
          updatedAt := 0 }).insert fun inventoryId =>
        { inventoryId := inventoryId
          itemId := 1
          binId := 2
          warehouseId := 1
          quantityOnHand := 5
          updatedAt := 0 } }

/-- The till of the shop. -/
def till (now : ℕ) : RequestContext :=
  { SmallWarehouse.pat now with warehouseIds := [1] }

def widgets (quantity : ℤ) (binCode : String) : PosLine where
  sku := "WIDGET"
  quantity := quantity
  warehouseCode := "SHOP"
  binCode := binCode

/-- Two widgets from each bin. -/
def body : CheckoutBody where
  idempotencyKey := "6e2b90f4-8d17-4c6b-b2a9-47c3d5e81f36"
  bodyHash := "a1"
  completedAt := 1
  paymentMethod := .cash
  lines := [widgets 2 "A-01", widgets 2 "A-02"]
  isPhoneOrder := false
  shipMethod := none
  orderType := .sale
  parentSoNumber := none
  returnedItems := []
  backorder := false
  lines_ne_nil := List.cons_ne_nil _ _
  lines_valid := by decide
  lines_located := by decide
  orderType_allowed := by decide

/-- The shop after the sale. -/
def sale : Db := committed db (newCheckout (till 1) "" db body)

def refundKey : ℕ → String
  | 0 => "c85f13de-07b2-4e94-8a61-f29d04b7c358"
  | _ => "f47ac10b-58cc-4372-a567-0e02b2c3d479"

/-- A refund of the widgets on the receipt `POS-1`. -/
def refundOf (now key : ℕ) (lines : List PosLine)
    (hlines : lines ≠ [] ∧ ∀ line ∈ lines, ValidLine line := by decide) :
    RefundCall where
  ctx := till now
  body :=
    { idempotencyKey := refundKey key
      bodyHash := refundKey key
      originalSoNumber := "POS-1"
      completedAt := now
      paymentMethod := .cash
      lines := some lines
      lines_valid := by
        intro lines' hmem
        cases hmem
        exact hlines }

/-- One widget back, then the other three. -/
def returns : List RefundCall :=
  [refundOf 2 0 [widgets 1 "A-01"], refundOf 3 1 [widgets 1 "A-01", widgets 2 "A-02"]]

/-- The first bin refunded twice. -/
def twice : List RefundCall :=
  [refundOf 2 0 [widgets 2 "A-01"], refundOf 3 1 [widgets 2 "A-01"]]

end SmallShop

theorem refunds_withinSale_returns :
    orderStatusOf (run serveRefund SmallShop.sale SmallShop.returns) 1 = some .soRefunded ∧
      accrued serveRefund (RefundsSale 1)
        (onHandOver fun place => place = ⟨1, 2, 1⟩) SmallShop.sale SmallShop.returns =
        2 := by
  have hmarked : orderStatusOf (run serveRefund SmallShop.sale SmallShop.returns) 1 =
      some .soRefunded := by decide
  have hrefunds := @refunds_withinSale (SmallShop.till 1) "" SmallShop.db
    SmallShop.sale SmallShop.body (.checkout "POS-1") (by decide) rfl rfl
    SmallShop.returns
  have hlocated := hrefunds.2.2.2 (by decide)
  exact ⟨hmarked, (hlocated.2 hmarked ⟨1, 2, 1⟩).trans (by decide)⟩

/-- Both refunds of the first bin are accepted, as the item has sold four: the bin is
put back more than it sold, the sale is refunded, and the second bin gets nothing. -/
theorem refundedAt_exceeds_sold :
    newCheckout (SmallShop.till 1) "" SmallShop.db SmallShop.body =
        .ok (SmallShop.sale, .checkout "POS-1") ∧
      orderStatusOf (run serveRefund SmallShop.sale SmallShop.twice) 1 = some .soRefunded ∧
      unitsAt (locate SmallShop.db SmallShop.body.lines) ⟨1, 1, 1⟩ = 2 ∧
      refundedAt (run serveRefund SmallShop.sale SmallShop.twice) 1 ⟨1, 1, 1⟩ = 4 ∧
      onHandOver (fun place => place = ⟨1, 1, 1⟩)
        (run serveRefund SmallShop.sale SmallShop.twice) = 7 ∧
      onHandOver (fun place => place = ⟨1, 2, 1⟩)
        (run serveRefund SmallShop.sale SmallShop.twice) = 3 := by
  refine ⟨rfl, by decide, by decide, by decide, by decide, by decide⟩

end SentryWms.Pos

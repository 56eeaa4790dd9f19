import SentryWms.TransferOrders.Conformance

/-!
# The reservation ledger of the transfer orders

What is reserved at a warehouse is what the lines of its standing transfer orders
have committed and not approved.  An import, an approval and a release move both
sides by the same units.  A retried import, a short pick, and an answer or a
release for a line that has given its units back move one side only.
-/

namespace SentryWms.TransferOrders

open Relational Inventory Picking

/-! ## The ledger -/

/-- The order is not cancelled, and sends from the warehouse. -/
def standsAt (db : Db) (warehouseId toId : ℕ) : Bool :=
  (db.transferOrders.find? toId).any fun header =>
    header.status ≠ .toCancelled ∧ header.sourceWarehouseId = warehouseId

/-- What a line has reserved of an item, where `stands` tells the orders that
count. -/
def heldBy (stands : ℕ → Bool) (itemId : ℕ) (line : TransferOrderLine) : ℤ :=
  if line.itemId = itemId ∧ line.status ≠ .toLineShortClosed ∧ stands line.toId
  then outstanding line
  else 0

/-- What the lines have reserved of an item at a warehouse. -/
def reservedFor (db : Db) (itemId warehouseId : ℕ) : ℤ :=
  db.transferOrderLines.sum (heldBy (standsAt db warehouseId) itemId)

/-- The reserved units are those of the lines; nothing is reserved below zero, no
line has approved more than it picked or picked more than it committed, all tasks
are of transfer orders, and snapshots list lines of their own order. -/
structure ReservationLedger (db : Db) : Prop where
  balance : ∀ itemId warehouseId,
    allocatedIn db itemId warehouseId = reservedFor db itemId warehouseId
  nonneg : AllocatedNonneg db
  bounded : ∀ line ∈ db.transferOrderLines.rows,
    line.approvedQty ≤ line.pickedQty ∧ line.pickedQty ≤ line.committedQty
  known : ∀ line ∈ db.transferOrderLines.rows, line.toId < db.transferOrders.nextKey
  tasks : ∀ task ∈ db.pickTasks.rows, task.soId? = none
  listed : ∀ approval ∈ db.transferOrderApprovals.rows,
    ∀ entry ∈ approval.linesSnapshot, ∃ line ∈ db.transferOrderLines.rows,
      line.toLineId = entry.1 ∧ line.toId = approval.toId ∧ line.itemId = entry.2.1

/-- Nothing is reserved, and no sales order is being picked. -/
def Idle (db : Db) : Prop :=
  (∀ row ∈ db.inventory.rows, row.quantityAllocated = 0) ∧
    ∀ task ∈ db.pickTasks.rows, task.soId? = none

instance (db : Db) : Decidable (Idle db) := inferInstanceAs (Decidable (_ ∧ _))

variable {db db' : Db} {line : TransferOrderLine} {header : TransferOrder}
  {toId toLineId toApprovalId : ℕ}

theorem Idle.ledger (hidle : Idle db) (hnone : NoTransfers db) :
    ReservationLedger db where
  balance := by
    intro itemId warehouseId
    have hreserved : reservedFor db itemId warehouseId = 0 := by
      apply Table.sum_eq_zero
      simp [hnone.2.1]
    rw [hreserved]
    apply Table.sum_eq_zero
    intro row hrow
    rw [hidle.1 row hrow, ite_self]
  nonneg := fun row hrow => (hidle.1 row hrow).ge
  bounded := by simp [hnone.2.1]
  known := by simp [hnone.2.1]
  tasks := hidle.2
  listed := by simp [hnone.2.2]

theorem outstanding_nonneg (hbounded : line.approvedQty ≤ line.pickedQty ∧
      line.pickedQty ≤ line.committedQty) : 0 ≤ outstanding line := by
  unfold outstanding
  omega

theorem allocatedIn_congr {left right : Db}
    (hinventory : left.inventory = right.inventory) (itemId warehouseId : ℕ) :
    allocatedIn left itemId warehouseId = allocatedIn right itemId warehouseId := by
  rw [allocatedIn, allocatedOver, hinventory, allocatedIn, allocatedOver]

variable {stands : ℕ → Bool} {itemId warehouseId batchId : ℕ}
  {set : TransferOrder → TransferOrder} {username : String} {ctx : RequestContext}
  {approval : TransferOrderApproval} {moved : Db} {settled : SettledTask}

theorem heldBy_congr {stands' : ℕ → Bool} (hstands : stands line.toId = stands' line.toId) :
    heldBy stands itemId line = heldBy stands' itemId line := by
  rw [heldBy, heldBy, hstands]

/-- The reserved units of the lines depend on the lines and on which of their
orders stand. -/
theorem reservedFor_congr (hlines : db'.transferOrderLines = db.transferOrderLines)
    (hstands : ∀ line ∈ db.transferOrderLines.rows,
      standsAt db' warehouseId line.toId = standsAt db warehouseId line.toId)
    (itemId : ℕ) :
    reservedFor db' itemId warehouseId = reservedFor db itemId warehouseId := by
  rw [reservedFor, reservedFor, hlines]
  exact Table.sum_congr _ fun line hline => heldBy_congr (hstands line hline)

/-- Which orders stand is not changed by an update that keeps the source and
neither cancels nor revives. -/
theorem standsAt_update {test : TransferOrder → Bool}
    {hset : ∀ header, (set header).toId = header.toId}
    (horders : db'.transferOrders = db.transferOrders.update test set hset)
    (hkept : ∀ header ∈ db.transferOrders.rows, test header →
      ((set header).status = .toCancelled ↔ header.status = .toCancelled) ∧
        (set header).sourceWarehouseId = header.sourceWarehouseId)
    (warehouseId toId : ℕ) :
    standsAt db' warehouseId toId = standsAt db warehouseId toId := by
  rw [standsAt, standsAt, horders, Table.find?_update]
  cases hfind : db.transferOrders.find? toId with
  | none => rfl
  | some header =>
      by_cases htest : test header
      · obtain ⟨hstatus, hsource⟩ :=
          hkept header (Table.find?_mem hfind) htest
        simp [htest, hstatus, hsource]
      · simp [htest]

/-- The ledger of a state with the same stock, tasks, lines and approvals, and the
same standing orders. -/
theorem ReservationLedger.of_lines (hledger : ReservationLedger db)
    (hinventory : db'.inventory = db.inventory)
    (htasks : ∀ task ∈ db'.pickTasks.rows, task.soId? = none)
    (hlines : db'.transferOrderLines = db.transferOrderLines)
    (hnext : db'.transferOrders.nextKey = db.transferOrders.nextKey)
    (hstands : ∀ warehouseId toId, standsAt db' warehouseId toId = standsAt db warehouseId toId)
    (hlisted : ∀ approval ∈ db'.transferOrderApprovals.rows,
      ∀ entry ∈ approval.linesSnapshot, ∃ line ∈ db.transferOrderLines.rows,
        line.toLineId = entry.1 ∧ line.toId = approval.toId ∧
          line.itemId = entry.2.1) : ReservationLedger db' where
  balance := by
    intro itemId warehouseId
    rw [allocatedIn_congr hinventory, hledger.balance,
      reservedFor_congr hlines fun line _ => hstands warehouseId line.toId]
  nonneg := by
    unfold AllocatedNonneg
    rw [hinventory]
    exact hledger.nonneg
  bounded := by
    rw [hlines]
    exact hledger.bounded
  known := by
    rw [hlines, hnext]
    exact hledger.known
  tasks := htasks
  listed := by
    rw [hlines]
    exact hlisted

theorem ReservationLedger.same (hledger : ReservationLedger db)
    (hsame : SameTransfers db db') (hinventory : db'.inventory = db.inventory)
    (htasks : ∀ task ∈ db'.pickTasks.rows, task.soId? = none) :
    ReservationLedger db' := by
  apply hledger.of_lines hinventory htasks hsame.lines
  · rw [hsame.orders]
  · intro warehouseId toId
    rw [standsAt, hsame.orders, standsAt]
  · rw [hsame.approvals]
    exact hledger.listed

/-! ## Import -/

/-- What the rows of an import commit of an item. -/
def committedOf (itemId : ℕ) (units : List (ℕ × ℤ)) : ℤ :=
  (units.map fun entry => if entry.1 = itemId then entry.2 else 0).sum

/-- The reserve loop reserves what it commits. -/
theorem commitRows_reserved (sourceWarehouseId : ℕ) (rows : List ImportRow)
    (hnonneg : AllocatedNonneg db) :
    AllocatedNonneg (commitRows sourceWarehouseId rows db).1 ∧
      (∀ entry ∈ (commitRows sourceWarehouseId rows db).2, 0 ≤ entry.committedQty) ∧
      ∀ itemId warehouseId,
        allocatedIn (commitRows sourceWarehouseId rows db).1 itemId warehouseId =
          allocatedIn db itemId warehouseId +
            if sourceWarehouseId = warehouseId then
              committedOf itemId
                ((commitRows sourceWarehouseId rows db).2.map fun entry =>
                  (entry.row.itemId, entry.committedQty))
            else 0 := by
  induction rows generalizing db with
  | nil =>
      refine ⟨hnonneg, by simp [commitRows], fun itemId warehouseId => ?_⟩
      simp [commitRows, committedOf]
  | cons row rest ih =>
      have hcommitted : 0 ≤ max 0 (min row.requestedQty
          (totalAvailable db row.itemId sourceWarehouseId)) := le_max_left _ _
      have havailable : max 0 (min row.requestedQty
          (totalAvailable db row.itemId sourceWarehouseId)) ≤
          totalAvailable db row.itemId sourceWarehouseId := by
        have htotal : 0 ≤ totalAvailable db row.itemId sourceWarehouseId := by
          apply List.sum_nonneg
          intro units hunits
          obtain ⟨source, -, rfl⟩ := List.mem_map.mp hunits
          exact le_max_left _ _
        omega
      obtain ⟨hrest, hnonnegs, hbalance⟩ := ih (hnonneg.reserve row.itemId
        sourceWarehouseId (max 0 (min row.requestedQty
          (totalAvailable db row.itemId sourceWarehouseId))))
      refine ⟨hrest, ?_, fun itemId warehouseId => ?_⟩
      · intro entry hentry
        cases List.mem_cons.mp hentry with
        | inl hhead => exact hhead ▸ hcommitted
        | inr hlater => exact hnonnegs entry hlater
      · rw [commitRows]
        dsimp only
        rw [hbalance, allocatedIn_reserve db hcommitted havailable]
        simp only [List.map_cons, committedOf, List.sum_cons]
        by_cases hhere : sourceWarehouseId = warehouseId
        · simp [hhere, add_assoc]
        · simp [hhere]

theorem standsAt_append (horders : db'.transferOrders.rows = db.transferOrders.rows ++ [header])
    (hid : header.toId = db.transferOrders.nextKey) (warehouseId : ℕ)
    (hknown : toId < db.transferOrders.nextKey) :
    standsAt db' warehouseId toId = standsAt db warehouseId toId := by
  have hother : ¬ header.toId = toId := by omega
  rw [standsAt, standsAt, Table.find?, horders, List.find?_append, List.find?_singleton]
  simp [hother, Table.find?]

theorem standsAt_new (horders : db'.transferOrders.rows = db.transferOrders.rows ++ [header])
    (hopen : header.status = .toOpen) (warehouseId : ℕ) :
    standsAt db' warehouseId header.toId =
      decide (header.sourceWarehouseId = warehouseId) := by
  have hfind : db'.transferOrders.find? header.toId = some header := by
    apply Table.find?_eq_some_iff.mpr
    rw [horders]
    exact ⟨List.mem_append_right _ (List.mem_singleton_self header), rfl⟩
  simp [standsAt, hfind, hopen]

/-- The lines of an import have reserved what it committed. -/
theorem sum_heldBy_added (toId : ℕ) {added : List TransferOrderLine}
    (hadded : ∀ line ∈ added, line.toId = toId ∧ line.approvedQty = 0 ∧
      0 ≤ line.committedQty ∧ line.status =
        if 0 < line.committedQty then .toLinePending else .toLineShortClosed) :
    (added.map (heldBy stands itemId)).sum =
      if stands toId then
        committedOf itemId (added.map fun line => (line.itemId, line.committedQty))
      else 0 := by
  induction added with
  | nil => simp [committedOf]
  | cons line rest ih =>
      obtain ⟨horder, happroved, hcommitted, hstatus⟩ := hadded line List.mem_cons_self
      rw [List.map_cons, List.sum_cons,
        ih fun other hother => hadded other (List.mem_cons_of_mem _ hother)]
      simp only [committedOf, List.map_cons, List.sum_cons, heldBy, outstanding,
        happroved, horder, sub_zero]
      by_cases hstands : stands toId
      · by_cases hpositive : 0 < line.committedQty
        · simp [hstands, hstatus, hpositive]
        · have hzero : line.committedQty = 0 := by omega
          simp [hstands, hzero]
      · simp [hstands]

theorem Imported.reservations {request : ImportRequest}
    (himported : Imported request db db') (hledger : ReservationLedger db)
    (hfresh : ∀ header ∈ db.transferOrders.rows,
      header.toNumber ≠ request.toNumber) : ReservationLedger db' := by
  obtain ⟨header, rows, reserved, committed, added, hid, hopen, horders, hcommit,
    hinventory, hlines, hunits, hadded⟩ := himported.written
  obtain ⟨hnonneg, hpositive, hbalance⟩ := commitRows_reserved
    header.sourceWarehouseId rows hledger.nonneg
  rw [hcommit] at hnonneg hpositive hbalance
  replace hinventory := hinventory hfresh
  have hcommitted : ∀ line ∈ added, 0 ≤ line.committedQty := by
    intro line hline
    have hmem : (line.itemId, line.committedQty) ∈ committed.map fun entry =>
        (entry.row.itemId, entry.committedQty) :=
      hunits ▸ List.mem_map_of_mem hline
    obtain ⟨entry, hentry, hsame⟩ := List.mem_map.mp hmem
    rw [← (Prod.mk.inj hsame).2]
    exact hpositive entry hentry
  refine
    { balance := fun itemId warehouseId => ?_
      nonneg := ?_
      bounded := ?_
      known := ?_
      tasks := ?_
      listed := ?_ }
  · have hold : (db.transferOrderLines.rows.map (heldBy (standsAt db' warehouseId) itemId)).sum =
        reservedFor db itemId warehouseId := by
      refine congrArg List.sum (List.map_congr_left fun line hline => ?_)
      exact heldBy_congr (standsAt_append horders hid warehouseId (hledger.known line hline))
    calc
      allocatedIn db' itemId warehouseId =
          allocatedIn reserved itemId warehouseId :=
        allocatedIn_congr hinventory itemId warehouseId
      _ = reservedFor db itemId warehouseId +
            if header.sourceWarehouseId = warehouseId then
              committedOf itemId (added.map fun line => (line.itemId, line.committedQty))
            else 0 := by
          rw [hbalance, hledger.balance, hunits]
      _ = reservedFor db itemId warehouseId +
            (added.map (heldBy (standsAt db' warehouseId) itemId)).sum := by
          rw [sum_heldBy_added header.toId fun line hline => by
            obtain ⟨-, horder, -, happroved, hstatus⟩ := hadded line hline
            exact ⟨horder, happroved, hcommitted line hline, hstatus⟩]
          rw [standsAt_new horders hopen]
          simp
      _ = reservedFor db' itemId warehouseId := by
          rw [← hold, reservedFor, Table.sum, hlines, List.map_append, List.sum_append]
  · unfold AllocatedNonneg
    rw [hinventory]
    exact hnonneg
  · rw [hlines]
    intro line hline
    cases List.mem_append.mp hline with
    | inl hold => exact hledger.bounded line hold
    | inr hnew =>
        obtain ⟨-, -, hpicked, happroved, -⟩ := hadded line hnew
        have := hcommitted line hnew
        omega
  · rw [hlines, himported.ordersNext]
    intro line hline
    cases List.mem_append.mp hline with
    | inl hold => exact (hledger.known line hold).trans (Nat.lt_succ_self _)
    | inr hnew =>
        rw [(hadded line hnew).2.1, hid]
        exact Nat.lt_succ_self _
  · rw [himported.tasks]
    exact hledger.tasks
  · rw [himported.approvals, hlines]
    intro approval happroval entry hentry
    obtain ⟨line, hline, hsame⟩ := hledger.listed approval happroval entry hentry
    exact ⟨line, List.mem_append_left _ hline, hsame⟩

/-! ## Picks and submissions -/

section Requests

variable {db db' : Db}

/-- An update of one line that keeps its order, its item and its commitment, and
leaves no short-closed line. -/
theorem reservedFor_updateKey {set : TransferOrderLine → TransferOrderLine}
    {hset : ∀ line, (set line).toLineId = line.toLineId}
    (hlines : db'.transferOrderLines = db.transferOrderLines.updateKey toLineId set hset)
    (hstands : ∀ toId, standsAt db' warehouseId toId = standsAt db warehouseId toId)
    (hline : db.transferOrderLines.find? toLineId = some line) (itemId : ℕ) :
    reservedFor db' itemId warehouseId = reservedFor db itemId warehouseId +
      (heldBy (standsAt db warehouseId) itemId (set line) -
        heldBy (standsAt db warehouseId) itemId line) := by
  have hsame : ∀ row, heldBy (standsAt db' warehouseId) itemId row =
      heldBy (standsAt db warehouseId) itemId row :=
    fun row => heldBy_congr (hstands row.toId)
  rw [reservedFor, hlines, Table.sum_congr _ fun row _ => hsame row,
    Table.sum_updateKey, hline, Option.elim_some]
  rfl

theorem Picked.reservations {quantity : ℤ}
    (hpicked : Picked db toId toLineId quantity db') (hledger : ReservationLedger db)
    (hinventory : db'.inventory = db.inventory)
    (htasks : ∀ task ∈ db'.pickTasks.rows, task.soId? = none) :
    ReservationLedger db' := by
  obtain ⟨found, hfound, hpickable, hfits⟩ := hpicked.line
  have hpositive := hpicked.positive
  have hstands : ∀ warehouseId other, standsAt db' warehouseId other =
      standsAt db warehouseId other := by
    apply standsAt_update hpicked.orders
    intro header _ htest
    have hopen : header.toId = toId ∧ header.status = .toOpen := by
      simpa using htest
    simp [hopen.2]
  have hopen : found.status ≠ .toLineShortClosed := by
    intro hclosed
    simp [pickable, hclosed] at hpickable
  refine
    { balance := fun itemId warehouseId => ?_
      nonneg := ?_
      bounded := ?_
      known := ?_
      tasks := htasks
      listed := ?_ }
  · rw [allocatedIn_congr hinventory, hledger.balance,
      reservedFor_updateKey hpicked.lines (hstands warehouseId) hfound]
    have hkept : heldBy (standsAt db warehouseId) itemId
        { found with
          pickedQty := found.pickedQty + quantity
          status :=
            if found.pickedQty + quantity = found.committedQty then .toLinePicked
            else .toLinePartiallyPicked } =
        heldBy (standsAt db warehouseId) itemId found := by
      unfold heldBy outstanding
      dsimp only
      split
      all_goals simp [hopen]
    rw [hkept, sub_self, add_zero]
  · unfold AllocatedNonneg
    rw [hinventory]
    exact hledger.nonneg
  · rw [hpicked.lines]
    intro line hline
    obtain ⟨row, hrow, rfl⟩ := Table.exists_of_mem_updateKey hline
    have hbounded := hledger.bounded row hrow
    split
    · rename_i hkey
      have hsame : row = found := Option.some.inj
        ((Table.find?_eq_some_iff.mpr ⟨hrow, hkey⟩).symm.trans hfound)
      subst hsame
      dsimp only
      omega
    · exact hbounded
  · rw [hpicked.lines, hpicked.orders]
    intro line hline
    obtain ⟨row, hrow, rfl⟩ := Table.exists_of_mem_updateKey hline
    split
    · exact hledger.known row hrow
    · exact hledger.known row hrow
  · rw [hpicked.approvals, hpicked.lines]
    intro approval happroval entry hentry
    obtain ⟨line, hline, hkey, horder, hitem⟩ := hledger.listed approval happroval entry hentry
    refine ⟨_, List.mem_map_of_mem hline, ?_⟩
    split <;> exact ⟨hkey, horder, hitem⟩

theorem Submitted.reservations (hsubmitted : Submitted db toId username db')
    (hledger : ReservationLedger db) (hinventory : db'.inventory = db.inventory)
    (htasks : db'.pickTasks = db.pickTasks) : ReservationLedger db' := by
  obtain ⟨found, hfound, hstatus⟩ := hsubmitted.header
  apply hledger.of_lines hinventory (htasks ▸ hledger.tasks) hsubmitted.lines
  · rw [hsubmitted.orders]
    rfl
  · apply standsAt_update hsubmitted.orders
    intro header hheader htest
    have hsame : header = found := Option.some.inj
      ((Table.find?_eq_some_iff.mpr ⟨hheader, by simpa using htest⟩).symm.trans
        hfound)
    subst hsame
    rcases hstatus with hstatus | hstatus <;>
      rcases submittable_submittedStatus db toId with hnew | hnew <;>
      simp [hstatus, hnew]
  · rw [hsubmitted.approvals]
    intro approval happroval entry hentry
    cases List.mem_append.mp happroval with
    | inl hold => exact hledger.listed approval hold entry hentry
    | inr hnew =>
        rw [List.mem_singleton.mp hnew] at hentry ⊢
        obtain ⟨line, hline, rfl⟩ := List.mem_map.mp hentry
        obtain ⟨hstored, horder, -⟩ := mem_unsubmittedLines.mp hline
        exact ⟨line, hstored, rfl, horder, rfl⟩

theorem submitPicks_stock (db : Db) (toId : ℕ) (username : String) :
    (submitPicks db toId username).inventory = db.inventory ∧
      (submitPicks db toId username).pickTasks = db.pickTasks := by
  unfold submitPicks
  split
  · exact ⟨rfl, rfl⟩
  · split
    · exact ⟨rfl, rfl⟩
    · dsimp only
      split <;> exact ⟨rfl, rfl⟩

theorem ReservationLedger.submitAll {toIds : List ℕ} (hledger : ReservationLedger db) :
    ReservationLedger
      (run (fun db toId => submitPicks db toId username) db toIds) := by
  induction toIds generalizing db with
  | nil => exact hledger
  | cons toId rest ih =>
      have hstep : ReservationLedger (submitPicks db toId username) := by
        obtain ⟨hinventory, htasks⟩ := submitPicks_stock db toId username
        cases submitPicks_cases db toId username with
        | inl hsame => rwa [hsame]
        | inr hsubmitted =>
            exact hsubmitted.reservations hledger hinventory htasks
      exact ih hstep

/-! ## Releases -/

/-- The units a list of lines has outstanding of an item. -/
def outstandingOf (itemId : ℕ) (lines : List TransferOrderLine) : ℤ :=
  (lines.map fun line => if line.itemId = itemId then outstanding line else 0).sum

/-- Releases of what is reserved take it all off. -/
theorem run_releaseLine (sourceWarehouseId : ℕ) {lines : List TransferOrderLine}
    (hnonneg : AllocatedNonneg db) (hlines : ∀ line ∈ lines, 0 ≤ outstanding line)
    (hreserved : ∀ itemId, outstandingOf itemId lines ≤ allocatedIn db itemId sourceWarehouseId) :
    AllocatedNonneg (run (releaseLine sourceWarehouseId) db lines) ∧
      ∀ itemId warehouseId,
        allocatedIn (run (releaseLine sourceWarehouseId) db lines) itemId warehouseId =
          allocatedIn db itemId warehouseId -
            if sourceWarehouseId = warehouseId then outstandingOf itemId lines
            else 0 := by
  induction lines generalizing db with
  | nil =>
      refine ⟨hnonneg, fun itemId warehouseId => ?_⟩
      simp [run, outstandingOf]
  | cons line rest ih =>
      have hrest : ∀ other ∈ rest, 0 ≤ outstanding other :=
        fun other hother => hlines other (List.mem_cons_of_mem _ hother)
      have hline := hlines line List.mem_cons_self
      have hlater : ∀ itemId, 0 ≤ outstandingOf itemId rest := by
        intro itemId
        apply List.sum_nonneg
        intro units hunits
        obtain ⟨other, hother, rfl⟩ := List.mem_map.mp hunits
        split
        · exact hrest other hother
        · exact le_rfl
      have hcons : ∀ itemId, outstandingOf itemId (line :: rest) =
          (if line.itemId = itemId then outstanding line else 0) +
            outstandingOf itemId rest := by
        intro itemId
        simp [outstandingOf]
      have hone : ∀ itemId warehouseId,
          allocatedIn (releaseLine sourceWarehouseId db line) itemId warehouseId =
            allocatedIn db itemId warehouseId -
              if line.itemId = itemId ∧ sourceWarehouseId = warehouseId then
                outstanding line
              else 0 := by
        intro itemId warehouseId
        have hfits := hreserved line.itemId
        rw [hcons, if_pos rfl] at hfits
        have hall : min (outstanding line) (allocatedIn db line.itemId sourceWarehouseId) =
            outstanding line := by
          apply min_eq_left
          have := hlater line.itemId
          omega
        rw [releaseLine, allocatedIn_release hnonneg hline, hall]
      have hfits : ∀ itemId, outstandingOf itemId rest ≤
          allocatedIn (releaseLine sourceWarehouseId db line) itemId
            sourceWarehouseId := by
        intro itemId
        have hboth := hreserved itemId
        rw [hcons] at hboth
        rw [hone]
        by_cases hitem : line.itemId = itemId
        · rw [if_pos hitem] at hboth
          rw [if_pos ⟨hitem, rfl⟩]
          omega
        · rw [if_neg hitem] at hboth
          rw [if_neg fun h => hitem h.1]
          omega
      have hstep : AllocatedNonneg (releaseLine sourceWarehouseId db line) :=
        hnonneg.release line.itemId sourceWarehouseId (outstanding line)
      obtain ⟨hkept, hbalance⟩ := ih hstep hrest hfits
      refine ⟨hkept, fun itemId warehouseId => (hbalance itemId warehouseId).trans ?_⟩
      rw [hone, hcons]
      by_cases hhere : sourceWarehouseId = warehouseId
      · by_cases hitem : line.itemId = itemId
        · simp only [hhere, hitem, and_self, if_true]
          omega
        · simp [hhere, hitem]
      · simp [hhere]

theorem mem_linesToRelease :
    line ∈ linesToRelease db toId ↔ line ∈ db.transferOrderLines.rows ∧
      line.toId = toId ∧ line.approvedQty < line.committedQty := by
  simp [linesToRelease, mem_orderBy, Table.select, List.mem_filter]

/-- The line has its reservation. -/
def holding (db : Db) (line : TransferOrderLine) : Prop :=
  line.status ≠ .toLineShortClosed ∧ headerStatusOf db line.toId ≠ some .toCancelled

instance (db : Db) (line : TransferOrderLine) : Decidable (holding db line) :=
  inferInstanceAs (Decidable (_ ∧ _))

/-- All that a transfer order releases, if each line it releases has its
reservation: the release takes that off, and without the order the lines reserve
that much less. -/
theorem ReservationLedger.released (hledger : ReservationLedger db)
    (hheader : db.transferOrders.find? toId = some header)
    (hholding : ∀ line ∈ linesToRelease db toId, holding db line) :
    AllocatedNonneg (releaseReservations toId header.sourceWarehouseId db) ∧
      ∀ itemId warehouseId,
        allocatedIn (releaseReservations toId header.sourceWarehouseId db) itemId warehouseId =
          db.transferOrderLines.sum fun line =>
            if line.toId = toId then 0
            else heldBy (standsAt db warehouseId) itemId line := by
  have hnonneg : ∀ line ∈ db.transferOrderLines.rows, 0 ≤ outstanding line :=
    fun line hline => outstanding_nonneg (hledger.bounded line hline)
  -- a line of the order holds what it has outstanding, at the source of the order
  have hheld : ∀ itemId warehouseId, ∀ line ∈ db.transferOrderLines.rows, line.toId = toId →
      heldBy (standsAt db warehouseId) itemId line =
        if header.sourceWarehouseId = warehouseId ∧ line.itemId = itemId then
          outstanding line
        else 0 := by
    intro itemId warehouseId line hline horder
    by_cases hnothing : line.approvedQty = line.committedQty
    · have hzero : outstanding line = 0 := by
        unfold outstanding
        omega
      simp [heldBy, hzero]
    · have hbounded := hledger.bounded line hline
      obtain ⟨hopen, hlive⟩ := hholding line
        (mem_linesToRelease.mpr ⟨hline, horder, by omega⟩)
      rw [headerStatusOf, horder, hheader, Option.map_some, ne_eq, Option.some.injEq] at hlive
      simp only [heldBy, standsAt, horder, hheader, Option.any_some, hopen, hlive,
        ne_eq, not_false_eq_true, true_and, decide_eq_true_eq, and_comm]
  have hsum : ∀ itemId, outstandingOf itemId (linesToRelease db toId) =
      db.transferOrderLines.sum fun line =>
        if line.toId = toId then
          if line.itemId = itemId then outstanding line else 0
        else 0 := by
    intro itemId
    have hperm : (linesToRelease db toId).Perm (db.transferOrderLines.select
        fun line => line.toId = toId ∧ line.approvedQty < line.committedQty) :=
      orderBy_perm _ _
    rw [outstandingOf, (hperm.map _).sum_eq, Table.sum_select]
    refine Table.sum_congr _ fun line hline => ?_
    have hbounded := hledger.bounded line hline
    by_cases horder : line.toId = toId
    · by_cases hmore : line.approvedQty < line.committedQty
      · simp [horder, hmore]
      · have hzero : outstanding line = 0 := by
          unfold outstanding
          omega
        simp [hmore, hzero]
    · simp [horder]
  have hsplit : ∀ itemId warehouseId,
      reservedFor db itemId warehouseId =
        (if header.sourceWarehouseId = warehouseId then
          outstandingOf itemId (linesToRelease db toId) else 0) +
        db.transferOrderLines.sum fun line =>
          if line.toId = toId then 0
          else heldBy (standsAt db warehouseId) itemId line := by
    intro itemId warehouseId
    rw [hsum]
    by_cases hhere : header.sourceWarehouseId = warehouseId
    · rw [if_pos hhere, ← Table.sum_add]
      refine Table.sum_congr _ fun line hline => ?_
      by_cases horder : line.toId = toId
      · rw [hheld itemId warehouseId line hline horder]
        simp [hhere, horder]
      · simp [horder]
    · rw [if_neg hhere, zero_add]
      refine Table.sum_congr _ fun line hline => ?_
      by_cases horder : line.toId = toId
      · rw [hheld itemId warehouseId line hline horder]
        simp [hhere, horder]
      · simp [horder]
  have hrest : ∀ itemId warehouseId, 0 ≤ db.transferOrderLines.sum fun line =>
      if line.toId = toId then 0
      else heldBy (standsAt db warehouseId) itemId line := by
    intro itemId warehouseId
    apply Table.sum_nonneg
    intro line hline
    split
    · exact le_rfl
    · unfold heldBy
      split
      · exact hnonneg line hline
      · exact le_rfl
  have hfits : ∀ itemId, outstandingOf itemId (linesToRelease db toId) ≤
      allocatedIn db itemId header.sourceWarehouseId := by
    intro itemId
    have hunits := hsplit itemId header.sourceWarehouseId
    rw [if_pos rfl] at hunits
    have hothers := hrest itemId header.sourceWarehouseId
    rw [hledger.balance]
    omega
  obtain ⟨hkept, hbalance⟩ := run_releaseLine header.sourceWarehouseId hledger.nonneg
    (fun line hline => hnonneg line (mem_linesToRelease.mp hline).1) hfits
  refine ⟨hkept, fun itemId warehouseId => (hbalance itemId warehouseId).trans ?_⟩
  rw [hledger.balance, hsplit, add_sub_cancel_left]

/-! ## Ends -/

theorem standsAt_other {other : ℕ} {hset : ∀ header, (set header).toId = header.toId}
    (horders : db'.transferOrders = db.transferOrders.updateKey toId set hset)
    (hother : other ≠ toId) (warehouseId : ℕ) :
    standsAt db' warehouseId other = standsAt db warehouseId other := by
  rw [standsAt, standsAt, horders, Table.find?_updateKey, if_neg hother]

theorem CancelledTransfer.reservations (hcancelled : CancelledTransfer toId db db')
    (hledger : ReservationLedger db)
    (hholding : ∀ line ∈ linesToRelease db toId, holding db line) :
    ReservationLedger db' := by
  obtain ⟨header, hheader, -, hinventory⟩ := hcancelled.header
  obtain ⟨hnonneg, hbalance⟩ := hledger.released hheader hholding
  have hnone : ∀ warehouseId, standsAt db' warehouseId toId = false := by
    intro warehouseId
    rw [standsAt, hcancelled.orders, Table.find?_updateKey, if_pos rfl, hheader]
    simp
  refine
    { balance := fun itemId warehouseId => ?_
      nonneg := ?_
      bounded := hcancelled.lines ▸ hledger.bounded
      known := ?_
      tasks := hcancelled.tasks ▸ hledger.tasks
      listed := ?_ }
  · rw [allocatedIn_congr hinventory, hbalance, reservedFor, hcancelled.lines]
    refine Table.sum_congr _ fun line hline => ?_
    split
    · rename_i horder
      simp [heldBy, horder, hnone]
    · rename_i hother
      exact heldBy_congr (standsAt_other hcancelled.orders hother warehouseId).symm
  · unfold AllocatedNonneg
    rw [hinventory]
    exact hnonneg
  · rw [hcancelled.lines, hcancelled.orders]
    exact hledger.known
  · rw [hcancelled.approvals, hcancelled.lines]
    exact hledger.listed

theorem DeletedTransfer.reservations (hdeleted : DeletedTransfer toId db db')
    (hledger : ReservationLedger db)
    (hholding : ∀ line ∈ linesToRelease db toId, holding db line) :
    ReservationLedger db' := by
  obtain ⟨header, hheader, hinventory⟩ := hdeleted.header
  obtain ⟨hnonneg, hbalance⟩ := hledger.released hheader hholding
  have hother : ∀ warehouseId other, other ≠ toId →
      standsAt db' warehouseId other = standsAt db warehouseId other := by
    intro warehouseId other hne
    rw [standsAt, standsAt, hdeleted.orders, Table.find?_delete]
    cases hfind : db.transferOrders.find? other with
    | none => rfl
    | some row =>
        have hkey : row.toId ≠ toId := by
          rw [Table.find?_key hfind]
          exact hne
        simp [Option.filter, hkey]
  refine
    { balance := fun itemId warehouseId => ?_
      nonneg := ?_
      bounded := ?_
      known := ?_
      tasks := hdeleted.tasks ▸ hledger.tasks
      listed := ?_ }
  · rw [allocatedIn_congr hinventory, hbalance, reservedFor, hdeleted.lines,
      Table.sum_delete, ← Table.sum_sub]
    refine Table.sum_congr _ fun line hline => ?_
    by_cases horder : line.toId = toId
    · simp [horder]
    · simp [horder, heldBy_congr (hother warehouseId line.toId horder)]
  · unfold AllocatedNonneg
    rw [hinventory]
    exact hnonneg
  · rw [hdeleted.lines]
    exact fun line hline => hledger.bounded line (List.mem_of_mem_filter hline)
  · rw [hdeleted.lines, hdeleted.orders]
    exact fun line hline => hledger.known line (List.mem_of_mem_filter hline)
  · rw [hdeleted.approvals, hdeleted.lines]
    intro approval happroval entry hentry
    obtain ⟨line, hline, hkey, horder, hitem⟩ := hledger.listed approval happroval entry hentry
    refine ⟨line, List.mem_filter.mpr ⟨hline, ?_⟩, hkey, horder, hitem⟩
    have hkept := hdeleted.unapproved approval happroval
    simpa [horder] using hkept

theorem ShortClosed.reservations (hclosed : ShortClosed toId toLineId db db')
    (hledger : ReservationLedger db)
    (hlive : ∀ line ∈ db.transferOrderLines.find? toLineId,
      0 < outstanding line → headerStatusOf db toId ≠ some .toCancelled) :
    ReservationLedger db' := by
  obtain ⟨line, header, hline, horder, hheader, hedge, hinventory⟩ := hclosed.line
  have hopen : line.status ≠ .toLineShortClosed := by
    intro hstatus
    rw [hstatus] at hedge
    cases hedge
  have hstored := Table.find?_mem hline
  have hunits : 0 ≤ outstanding line := outstanding_nonneg (hledger.bounded line hstored)
  have hstands : ∀ warehouseId other, standsAt db' warehouseId other =
      standsAt db warehouseId other := by
    intro warehouseId other
    rw [standsAt, standsAt, hclosed.orders]
  -- what the line held, and what is reserved besides
  have hheld : ∀ itemId warehouseId,
      heldBy (standsAt db warehouseId) itemId line =
        if line.itemId = itemId ∧ header.sourceWarehouseId = warehouseId then
          outstanding line
        else 0 := by
    intro itemId warehouseId
    by_cases hnothing : outstanding line = 0
    · simp [heldBy, hnothing]
    · have hstatus := hlive line hline (by omega)
      rw [headerStatusOf, hheader, Option.map_some, ne_eq, Option.some.injEq] at hstatus
      simp [heldBy, standsAt, horder, hheader, hopen, hstatus]
  have hfits : outstanding line ≤
      allocatedIn db line.itemId header.sourceWarehouseId := by
    have hone := hheld line.itemId header.sourceWarehouseId
    rw [if_pos ⟨rfl, rfl⟩] at hone
    rw [hledger.balance, ← hone, reservedFor, Table.sum]
    apply List.single_le_sum
    · intro units hmem
      obtain ⟨row, hrow, rfl⟩ := List.mem_map.mp hmem
      unfold heldBy
      split
      · exact outstanding_nonneg (hledger.bounded row hrow)
      · exact le_rfl
    · exact List.mem_map_of_mem hstored
  refine
    { balance := fun itemId warehouseId => ?_
      nonneg := ?_
      bounded := ?_
      known := ?_
      tasks := hclosed.tasks ▸ hledger.tasks
      listed := ?_ }
  · rw [allocatedIn_congr hinventory, releaseLine,
      allocatedIn_release hledger.nonneg hunits, min_eq_left hfits,
      hledger.balance, reservedFor_updateKey hclosed.lines (hstands warehouseId) hline, hheld]
    simp [heldBy, sub_eq_add_neg]
  · unfold AllocatedNonneg
    rw [hinventory]
    exact hledger.nonneg.release line.itemId header.sourceWarehouseId (outstanding line)
  · rw [hclosed.lines]
    intro row hrow
    obtain ⟨old, hold, rfl⟩ := Table.exists_of_mem_updateKey hrow
    split <;> exact hledger.bounded old hold
  · rw [hclosed.lines, hclosed.orders]
    intro row hrow
    obtain ⟨old, hold, rfl⟩ := Table.exists_of_mem_updateKey hrow
    split <;> exact hledger.known old hold
  · rw [hclosed.approvals, hclosed.lines]
    intro approval happroval entry hentry
    obtain ⟨row, hrow, hkey, hof, hitem⟩ := hledger.listed approval happroval entry hentry
    refine ⟨_, List.mem_map_of_mem hrow, ?_⟩
    split <;> exact ⟨hkey, hof, hitem⟩

/-! ## Answers -/

/-- The ledger while the entries of a snapshot move: what is left of them lists
lines that hold their reservation. -/
structure Moving (start : Db) (toId : ℕ) (entries : List (ℕ × ℕ × ℤ)) (db : Db) :
    Prop where
  balance : ∀ itemId warehouseId,
    allocatedIn db itemId warehouseId = reservedFor db itemId warehouseId
  nonneg : AllocatedNonneg db
  bounded : ∀ line ∈ db.transferOrderLines.rows,
    line.approvedQty ≤ line.pickedQty ∧ line.pickedQty ≤ line.committedQty
  sameLines : db.transferOrderLines.rows.map
      (fun line => (line.toLineId, line.toId, line.itemId)) =
    start.transferOrderLines.rows.map
      fun line => (line.toLineId, line.toId, line.itemId)
  sameOrders : db.transferOrders = start.transferOrders
  listed : ∀ entry ∈ entries, ∃ line,
    db.transferOrderLines.find? entry.1 = some line ∧ line.toId = toId ∧
      line.itemId = entry.2.1 ∧ line.status ≠ .toLineShortClosed

theorem Moving.move {start state next : Db} {now : ℕ} {entry : ℕ × ℕ × ℤ}
    {rest : List (ℕ × ℕ × ℤ)} (hheader : start.transferOrders.find? toId = some header)
    (hlive : header.status ≠ .toCancelled) (hunits : Moved now header entry state next)
    (hmoving : Moving start toId (entry :: rest) state) :
    Moving start toId rest next := by
  obtain ⟨line, hline, horder, hitem, hopen⟩ := hmoving.listed entry List.mem_cons_self
  have hpositive := hunits.positive
  have hfits := hunits.fits line (Table.find?_mem hline) (Table.find?_key hline)
  obtain ⟨credited, taken, bin, hcredited, htaken, hlanded⟩ := hunits.stock
  have hstands : ∀ warehouseId other, standsAt next warehouseId other =
      standsAt state warehouseId other := by
    intro warehouseId other
    rw [standsAt, standsAt, hunits.orders]
  have hfrom : ∀ warehouseId, standsAt state warehouseId line.toId =
      decide (header.sourceWarehouseId = warehouseId) := by
    intro warehouseId
    rw [standsAt, hmoving.sameOrders, horder, hheader]
    simp [hlive]
  have hcreditednonneg : AllocatedNonneg credited := by
    unfold AllocatedNonneg
    rw [hcredited]
    exact hmoving.nonneg
  refine
    { balance := fun itemId warehouseId => ?_
      nonneg := ?_
      bounded := ?_
      sameLines := ?_
      sameOrders := hunits.orders.trans hmoving.sameOrders
      listed := ?_ }
  · have hstatus : (addApproved entry.2.2 line).status ≠ .toLineShortClosed := by
      unfold addApproved
      dsimp only
      split
      · simp
      · exact hopen
    have hsource : allocatedIn next itemId warehouseId =
        allocatedIn state itemId warehouseId -
          if line.itemId = itemId ∧ header.sourceWarehouseId = warehouseId then
            entry.2.2
          else 0 := by
      rw [allocatedIn_congr hlanded, allocatedIn, allocatedOver_addInventory,
        ← allocatedIn, allocatedIn_decrement hpositive.le htaken,
        allocatedIn_congr hcredited, hitem]
    rw [hsource, hmoving.balance, reservedFor_updateKey hunits.lines (hstands warehouseId) hline]
    simp only [heldBy, addApproved, outstanding] at hstatus ⊢
    simp only [hfrom, hstatus, hopen, ne_eq, not_false_eq_true, true_and, decide_eq_true_eq]
    split <;> omega
  · unfold AllocatedNonneg
    rw [hlanded]
    apply AllocatedNonneg.addInventory
    simp only [decrementSourceInventory, bind_eq_ok, require_eq_ok, pure_eq_ok] at htaken
    obtain ⟨-, -, rfl⟩ := htaken
    exact hcreditednonneg.consume now entry.2.1 header.sourceWarehouseId entry.2.2
  · rw [hunits.lines]
    intro row hrow
    obtain ⟨old, hold, rfl⟩ := Table.exists_of_mem_updateKey hrow
    have hbounded := hmoving.bounded old hold
    split
    · rename_i hkey
      have hrowfits := hunits.fits old hold hkey
      simp only [addApproved]
      omega
    · exact hbounded
  · rw [hunits.lines, ← hmoving.sameLines]
    simp only [Table.updateKey, Table.update, List.map_map]
    refine List.map_congr_left fun row _ => ?_
    rw [Function.comp_apply]
    split <;> rfl
  · intro other hother
    obtain ⟨row, hrow, hof, hrowitem, hrowopen⟩ :=
      hmoving.listed other (List.mem_cons_of_mem _ hother)
    rw [hunits.lines, Table.find?_updateKey, hrow]
    by_cases hkey : other.1 = entry.1
    · rw [if_pos hkey]
      refine ⟨_, rfl, hof, hrowitem, ?_⟩
      unfold addApproved
      dsimp only
      split
      · simp
      · exact hrowopen
    · rw [if_neg hkey]
      exact ⟨row, rfl, hof, hrowitem, hrowopen⟩

/-- The orders of an answer stand where they stood. -/
theorem Approved.standsAt (happroved : Approved ctx toId toApprovalId header approval db moved db')
    (hlive : header.status ≠ .toCancelled) (warehouseId other : ℕ) :
    standsAt db' warehouseId other = standsAt db warehouseId other := by
  cases happroved.orders_cases with
  | inl hsame => rw [TransferOrders.standsAt, hsame, TransferOrders.standsAt]
  | inr hclosed =>
      apply standsAt_update hclosed
      intro row hrow htest
      have hkey : row.toId = header.toId := by simpa using htest
      have hsame : row = header :=
        List.inj_on_of_nodup_map db.transferOrders.keys_nodup hrow
          (Table.find?_mem happroved.stored) hkey
      simp [hsame, hlive]

theorem Approved.reservations
    (happroved : Approved ctx toId toApprovalId header approval db moved db')
    (hledger : ReservationLedger db)
    (hlive : headerStatusOf db toId ≠ some .toCancelled)
    (hopen : ∀ entry ∈ approval.linesSnapshot,
      lineStatusOf db entry.1 ≠ some .toLineShortClosed) : ReservationLedger db' := by
  have hheader := happroved.stored
  rw [headerStatusOf, hheader, Option.map_some, ne_eq, Option.some.injEq] at hlive
  have hinit : Moving db toId (snapshotEntries approval) db := by
    refine ⟨hledger.balance, hledger.nonneg, hledger.bounded, rfl, rfl, ?_⟩
    intro entry hentry
    have hlisted := mem_orderBy.mp hentry
    obtain ⟨line, hline, hkey, horder, hitem⟩ := hledger.listed approval
      (Table.find?_mem happroved.found) entry hlisted
    have hfind := Table.find?_eq_some_iff.mpr ⟨hline, hkey⟩
    refine ⟨line, hfind, horder.trans happroved.order, hitem, ?_⟩
    have hstatus := hopen entry hlisted
    rwa [lineStatusOf, hfind, Option.map_some, ne_eq, Option.some.injEq] at hstatus
  have hmoving : Moving db toId [] moved := by
    refine moveEntries_induct (Moving db toId) ?_ ?_ happroved.moves hinit
    · intro entry rest state _ hstate
      exact
        { hstate with
          listed := fun other hother => hstate.listed other (List.mem_cons_of_mem _ hother) }
    · intro entry rest state next hunits hstate
      exact hstate.move hheader hlive hunits
  have hlines := happroved.lines
  have hviews := hmoving.sameLines
  rw [← hlines] at hviews
  have hview : ∀ row ∈ db'.transferOrderLines.rows,
      ∃ line ∈ db.transferOrderLines.rows, line.toLineId = row.toLineId ∧
        line.toId = row.toId ∧ line.itemId = row.itemId := by
    intro row hrow
    have hmem := List.mem_map_of_mem
      (f := fun line : TransferOrderLine =>
        (line.toLineId, line.toId, line.itemId)) hrow
    rw [hviews] at hmem
    obtain ⟨line, hline, hsame⟩ := List.mem_map.mp hmem
    simp only [Prod.mk.injEq] at hsame
    exact ⟨line, hline, hsame⟩
  have hstands : ∀ warehouseId other, TransferOrders.standsAt db' warehouseId
      other = TransferOrders.standsAt moved warehouseId other := by
    intro warehouseId other
    rw [happroved.standsAt hlive, TransferOrders.standsAt,
      TransferOrders.standsAt, hmoving.sameOrders]
  refine
    { balance := fun itemId warehouseId => ?_
      nonneg := ?_
      bounded := hlines ▸ hmoving.bounded
      known := ?_
      tasks := happroved.tasks ▸ hledger.tasks
      listed := ?_ }
  · rw [allocatedIn_congr happroved.inventory, hmoving.balance]
    exact (reservedFor_congr hlines
      (fun line _ => hstands warehouseId line.toId) itemId).symm
  · unfold AllocatedNonneg
    rw [happroved.inventory]
    exact hmoving.nonneg
  · intro row hrow
    obtain ⟨line, hline, -, horder, -⟩ := hview row hrow
    rw [← horder]
    cases happroved.orders_cases with
    | inl hsame =>
        rw [hsame]
        exact hledger.known line hline
    | inr hclosed =>
        rw [hclosed]
        exact hledger.known line hline
  · rw [happroved.approvals]
    intro answered hanswered entry hentry
    obtain ⟨old, hold, rfl⟩ := Table.exists_of_mem_updateKey hanswered
    have hlisted : entry ∈ old.linesSnapshot := by
      split at hentry <;> exact hentry
    obtain ⟨line, hline, hkey, horder, hitem⟩ := hledger.listed old hold entry hlisted
    have hmem := List.mem_map_of_mem
      (f := fun line : TransferOrderLine =>
        (line.toLineId, line.toId, line.itemId)) hline
    rw [← hviews] at hmem
    obtain ⟨row, hrow, hsame⟩ := List.mem_map.mp hmem
    simp only [Prod.mk.injEq] at hsame
    obtain ⟨hsamekey, hsameorder, hsameitem⟩ := hsame
    refine ⟨row, hrow, hsamekey.trans hkey, ?_, hsameitem.trans hitem⟩
    split <;> exact hsameorder.trans horder

theorem Rejected.reservations (hrejected : Rejected toId toApprovalId db db')
    (hledger : ReservationLedger db) : ReservationLedger db' := by
  obtain ⟨approvedBy, happrovals⟩ := hrejected.approvals
  apply hledger.of_lines hrejected.inventory (hrejected.tasks ▸ hledger.tasks) hrejected.lines
  · rw [hrejected.orders]
  · intro warehouseId other
    rw [standsAt, hrejected.orders, standsAt]
  · rw [happrovals]
    intro answered hanswered entry hentry
    obtain ⟨old, hold, rfl⟩ := Table.exists_of_mem_updateKey hanswered
    have hlisted : entry ∈ old.linesSnapshot := by
      split at hentry <;> exact hentry
    obtain ⟨line, hline, hkey, horder, hitem⟩ := hledger.listed old hold entry hlisted
    refine ⟨line, hline, hkey, ?_, hitem⟩
    split <;> exact horder

end Requests

/-! ## Tasks and batches -/

section Tasks

variable {db db' : Db} {ctx : RequestContext}

theorem recordPick_tasks {pickTaskId : ℕ} {status : TaskStatus} {quantityPicked : ℤ}
    (htasks : ∀ task ∈ db.pickTasks.rows, task.soId? = none) :
    ∀ task ∈ (recordPick pickTaskId status quantityPicked db).pickTasks.rows,
      task.soId? = none := by
  intro task htask
  obtain ⟨old, hold, rfl⟩ := List.mem_map.mp htask
  split <;> exact htasks old hold

theorem confirmPick_reservations {request : ConfirmPickRequest}
    (hserved : confirmPick ctx db request = .ok (db', settled))
    (hledger : ReservationLedger db) : ReservationLedger db' := by
  obtain ⟨task, hfound, -, -, hstate⟩ := confirmPick_ok hserved
  have hnone := hledger.tasks task (Table.find?_mem hfound)
  cases hstate with
  | salesOrder soId soLineId htarget hstate =>
      rw [PickTask.soId?, htarget] at hnone
      cases hnone
  | transferOrder toId toLineId credited htarget hcredited hstate =>
      simp only [updateTransferOrderLinePicked, bind_eq_ok, require_eq_ok,
        orThrow_eq_ok, pure_eq_ok] at hcredited
      obtain ⟨-, -, line, -, rfl⟩ := hcredited
      have hinventory : db'.inventory = db.inventory := by
        rw [hstate]
        rfl
      have htasks : ∀ task ∈ db'.pickTasks.rows, task.soId? = none := by
        rw [hstate]
        exact recordPick_tasks hledger.tasks
      cases confirmPick_transfers hserved with
      | inl hsame => exact hledger.same hsame hinventory htasks
      | inr hpicked =>
          obtain ⟨_, _, _, -, -, -, hpicked⟩ := hpicked
          exact hpicked.reservations hledger hinventory htasks

/-- Where every task is of a transfer order, no short pick is accepted. -/
theorem shortPick_refused {request : ShortPickRequest} (hledger : ReservationLedger db) :
    shortPick ctx db request ≠ .ok (db', settled) := by
  intro hserved
  obtain ⟨task, hfound, hsalesOrder⟩ := shortPick_soId hserved
  rw [hledger.tasks task (Table.find?_mem hfound)] at hsalesOrder
  cases hsalesOrder

theorem emitEvent_stock (eventType : EventType) (aggregateId warehouseId : ℕ) (db : Db) :
    (emitEvent ctx eventType aggregateId warehouseId db).inventory = db.inventory ∧
      (emitEvent ctx eventType aggregateId warehouseId db).pickTasks =
        db.pickTasks := by
  unfold emitEvent
  split <;> exact ⟨rfl, rfl⟩

/-- Completing a batch leaves stock and tasks alone. -/
theorem completeBatch_stock {summary : BatchSummary}
    (hserved : completeBatch ctx db batchId = .ok (db', summary)) :
    db'.inventory = db.inventory ∧ db'.pickTasks = db.pickTasks := by
  simp only [completeBatch, bind_eq_ok, orThrow_eq_ok, require_eq_ok, pure_eq_ok,
    Prod.mk.injEq] at hserved
  obtain ⟨batch, -, -, -, -, -, rfl, -⟩ := hserved
  have hpick : ∀ state (order : SalesOrder),
      (pickOrder ctx state order).inventory = state.inventory ∧
        (pickOrder ctx state order).pickTasks = state.pickTasks :=
    fun state order => emitEvent_stock ..
  have hsubmit : ∀ state toId,
      (submitPicks state toId ctx.username).inventory = state.inventory ∧
        (submitPicks state toId ctx.username).pickTasks = state.pickTasks :=
    fun state toId => submitPicks_stock state toId ctx.username
  constructor
  · exact (run_unchanged Db.inventory (fun state toId => (hsubmit state toId).1) _
      _).trans (run_unchanged Db.inventory
        (fun state order => (hpick state order).1) _ _)
  · exact (run_unchanged Db.pickTasks (fun state toId => (hsubmit state toId).2) _
      _).trans (run_unchanged Db.pickTasks
        (fun state order => (hpick state order).2) _ _)

/-- A batch without sales-order tasks has nothing to undo. -/
theorem fullRevertBatch_stock {reverted : RevertedBatch}
    (htasks : ∀ task ∈ db.pickTasks.rows, task.soId? = none)
    (hserved : fullRevertBatch ctx db batchId = .ok (db', reverted)) :
    db'.inventory = db.inventory ∧ db'.pickTasks = db.pickTasks := by
  simp only [fullRevertBatch, bind_eq_ok, orThrow_eq_ok, pure_eq_ok, Prod.mk.injEq] at hserved
  obtain ⟨batch, -, rfl, -⟩ := hserved
  have hundone : ∀ tasks : List PickTask, (∀ task ∈ tasks, task.soId? = none) →
      run (undoTask ctx batch.warehouseId) db tasks = db := by
    intro tasks hnone
    induction tasks with
    | nil => rfl
    | cons task rest ih =>
        have hskipped : undoTask ctx batch.warehouseId db task = db := by
          rw [undoTask, if_pos (hnone task List.mem_cons_self)]
        calc
          run (undoTask ctx batch.warehouseId) db (task :: rest) =
              run (undoTask ctx batch.warehouseId)
                (undoTask ctx batch.warehouseId db task) rest := rfl
          _ = db := by
              rw [hskipped]
              exact ih fun other hother => hnone other (List.mem_cons_of_mem _ hother)
  unfold revertBatch
  split
  · rw [hundone (tasksOf db batch.batchId) fun task htask =>
      htasks task (List.mem_of_mem_filter htask)]
    exact ⟨rfl, rfl⟩
  · exact ⟨rfl, rfl⟩

end Tasks

/-! ## All requests -/

/-- The request moves both sides of the ledger: an import draws a number that is
free, an approval is of a standing order and of lines that are not short-closed, and a
release is of lines that hold their reservation.  No other transaction runs. -/
def KeepsReservations (db : Db) (call : TransferCall) : Prop :=
  match call.request with
  | .outside _ => False
  | .importTransferOrder request =>
      (importTransferOrder db request).isOk →
        ∀ header ∈ db.transferOrders.rows, header.toNumber ≠ request.toNumber
  | .approve toId toApprovalId =>
      (approveTransferOrderApproval call.ctx db toId toApprovalId).isOk →
        headerStatusOf db toId ≠ some .toCancelled ∧
        ∀ approval ∈ db.transferOrderApprovals.find? toApprovalId,
          ∀ entry ∈ approval.linesSnapshot, lineStatusOf db entry.1 ≠ some .toLineShortClosed
  | .cancel toId =>
      (cancelTransferOrder db toId).isOk → ∀ line ∈ linesToRelease db toId, holding db line
  | .delete toId =>
      (deleteTransferOrder db toId).isOk → ∀ line ∈ linesToRelease db toId, holding db line
  | .shortClose toId toLineId =>
      (shortCloseToLine db toId toLineId).isOk →
        ∀ line ∈ db.transferOrderLines.find? toLineId,
          0 < outstanding line → headerStatusOf db toId ≠ some .toCancelled
  | _ => True

instance (db : Db) (call : TransferCall) : Decidable (KeepsReservations db call) := by
  obtain ⟨ctx, request⟩ := call
  cases_type TransferRequest <;> unfold KeepsReservations <;> infer_instance

theorem ReservationLedger.serve {call : TransferCall} (hledger : ReservationLedger db)
    (hkeeps : KeepsReservations db call) :
    ReservationLedger (serveTransfer db call) := by
  obtain ⟨ctx, request⟩ := call
  cases request with
  | outside request => exact hkeeps.elim
  | importTransferOrder request =>
      exact committed_cases hledger fun db' result hserved =>
        (importTransferOrder_imported hserved).reservations hledger
          (hkeeps (by rw [hserved]; rfl))
  | startToPicking toId =>
      refine committed_cases hledger fun db' result hserved => ?_
      obtain ⟨hsame, hinventory, htasks⟩ := startToPicking_frame hserved
      refine hledger.same hsame hinventory fun task htask => ?_
      cases htasks task htask with
      | inl hold => exact hledger.tasks task hold
      | inr hnew => exact hnew
  | confirmPick request =>
      exact committed_cases hledger fun db' result hserved =>
        confirmPick_reservations hserved hledger
  | shortPick request =>
      exact committed_cases hledger fun db' result hserved =>
        absurd hserved (shortPick_refused hledger)
  | completeBatch batchId =>
      refine committed_cases hledger fun db' result hserved => ?_
      have hsubmitted : ReservationLedger (run (fun db toId =>
          submitPicks db toId ctx.username) db (transferOrdersOf db batchId)) :=
        hledger.submitAll
      obtain ⟨hinventory, htasks⟩ := completeBatch_stock hserved
      have hstock : ∀ toIds : List ℕ,
          (run (fun db toId => submitPicks db toId ctx.username) db
            toIds).inventory = db.inventory :=
        fun toIds => run_unchanged Db.inventory
          (fun state toId => (submitPicks_stock state toId ctx.username).1) db
          toIds
      exact hsubmitted.same (completeBatch_transfers hserved)
        (hinventory.trans (hstock _).symm) (htasks ▸ hledger.tasks)
  | cancelBatch batchId =>
      refine committed_cases hledger fun db' result hserved => ?_
      obtain ⟨hinventory, htasks⟩ := fullRevertBatch_stock hledger.tasks hserved
      exact hledger.same (fullRevertBatch_transfers hserved) hinventory (htasks ▸ hledger.tasks)
  | submitPicks toId =>
      have hsubmitted : ReservationLedger (run (fun db toId =>
          submitPicks db toId ctx.username) db [toId]) := hledger.submitAll
      exact hsubmitted
  | approve toId toApprovalId =>
      refine committed_cases hledger fun db' result hserved => ?_
      obtain ⟨header, approval, moved, happroved⟩ := approve_approved hserved
      obtain ⟨hlive, hopen⟩ := hkeeps (by rw [hserved]; rfl)
      exact happroved.reservations hledger hlive (hopen approval happroved.found)
  | reject toId toApprovalId =>
      exact committed_cases hledger fun db' result hserved =>
        (reject_rejected hserved).reservations hledger
  | cancel toId =>
      exact committed_cases hledger fun db' result hserved =>
        (cancel_cancelled hserved).reservations hledger
          (hkeeps (by rw [hserved]; rfl))
  | delete toId =>
      exact committed_cases hledger fun db' result hserved =>
        (delete_deleted hserved).reservations hledger
          (hkeeps (by rw [hserved]; rfl))
  | shortClose toId toLineId =>
      exact committed_cases hledger fun db' result hserved =>
        (shortClose_shortClosed hserved).reservations hledger
          (hkeeps (by rw [hserved]; rfl))

/-- From an idle database without transfer orders, in every run of transfer-order
requests that move both sides, what is reserved of an item at a warehouse is what
the lines of the standing orders from there have committed and not approved. -/
theorem reservations_balance {db : Db} {calls : List TransferCall}
    (hnone : NoTransfers db) (hidle : Idle db)
    (hkeeps : Along serveTransfer KeepsReservations db calls)
    (itemId warehouseId : ℕ) :
    allocatedIn (run serveTransfer db calls) itemId warehouseId =
      reservedFor (run serveTransfer db calls) itemId warehouseId := by
  have hledger : ReservationLedger (run serveTransfer db calls) :=
    run_invariant (fun _ _ => ReservationLedger.serve) (hidle.ledger hnone) hkeeps
  exact hledger.balance itemId warehouseId

/-- Two orders; the first has two of its three units approved and the rest
short-closed, the second is cancelled after a pick. -/
def endedOrders : List TransferRequest :=
  [SmallTransfer.transfer "TO-1" 3, .startToPicking 1,
    .confirmPick (SmallWarehouse.confirm 1 2), .submitPicks 1, .approve 1 1,
    SmallTransfer.transfer "TO-2" 4, .shortClose 1 1, .cancel 2]

theorem reservations_balance_endedOrders :
    allocatedIn (SmallTransfer.after endedOrders) 1 1 =
      reservedFor (SmallTransfer.after endedOrders) 1 1 :=
  reservations_balance (by decide) (by decide) (by decide) 1 1

/-- The two sides of the ledger for the item at `WEST`. -/
def ledgerAfter (requests : List TransferRequest) : ℤ × ℤ :=
  (allocatedIn (SmallTransfer.after requests) 1 1, reservedFor (SmallTransfer.after requests) 1 1)

/-- A line is short-closed and its order cancelled, and the second release takes the
units of another order; an import whose number is taken reserves nothing. -/
theorem reservations_unbalanced :
    ledgerAfter [SmallTransfer.transfer "TO-1" 3, .shortClose 1 1,
        SmallTransfer.transfer "TO-2" 4, .cancel 1] = (1, 4) ∧
      ledgerAfter [SmallTransfer.transfer "TO-1" 3,
        SmallTransfer.transfer "TO-1" 4] = (3, 7) := by
  decide

end SentryWms.TransferOrders

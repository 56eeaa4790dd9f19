import SentryWms.Stock.Writers

/-!
# The statements of a stock request

What is known of a transaction at each point, what its tasks may report, and what one
statement does: it locks what is free and moves on, leaves its task, rejects an
adjustment, writes, or commits what it has written.
-/

namespace SentryWms.Stock

open Relational Sessions

/-! ## Assertions -/

/-- The adjustment is locked, and pending. -/
structure UnderReview (locks : List StockLock) (db : StockDb)
    (adjustment : InventoryAdjustment) : Prop where
  locked : .adjustment adjustment.adjustmentId ∈ locks
  stored : db.adjustments.find? adjustment.adjustmentId = some adjustment
  pending : adjustment.status = .adjPending

/-- The rows a write needs are there, in its cell. -/
structure Targets (write : StockWrite) (rows : StockRows) : Prop where
  touched : ∀ inventoryId ∈ write.effect.touched,
    ∃ row ∈ rows.rows, row.inventoryId = inventoryId ∧ cellOf row = write.cell
  inserted : ∀ row ∈ write.effect.inserted, cellOf row = write.cell

/-- The quantities of a write, the adjustment it approves, and the advisory lock of an
insert that needs it. -/
structure Backed (locks : List StockLock) (db : StockDb) (write : StockWrite) : Prop where
  sane : write.Sane
  review : ∀ adjustment ∈ write.review, UnderReview locks db adjustment ∧
    write.cell = ⟨adjustment.itemId, adjustment.binId⟩ ∧ write.change = adjustment.quantityChange
  advised : ∀ row, write.effect = .insert row true → .advisory (cellOf row) ∈ locks

/-- The adjustments a transaction has reviewed. -/
def OwnWrites.reviewed (own : OwnWrites) : List ℕ := approvedBy own.writes ++ own.rejected

/-- What a transaction has written. -/
structure Held (now : ℕ) (own : OwnWrites) (locks : List StockLock) (db : StockDb) :
    Prop where
  placed : Chain Placed now own.writes db.inventory
  backed : ∀ write ∈ own.writes, Backed locks db write
  locked : ∀ write ∈ own.writes, ∀ inventoryId ∈ write.effect.rowIds, .row inventoryId ∈ locks
  rejected : ∀ adjustmentId ∈ own.rejected, ∃ adjustment,
    UnderReview locks db adjustment ∧ adjustment.adjustmentId = adjustmentId
  once : own.reviewed.Nodup

/-- A write that is about to be made. -/
structure Fits (now : ℕ) (own : OwnWrites) (locks : List StockLock) (db : StockDb)
    (write : StockWrite) : Prop where
  targets : Targets write (own.inventory now db)
  backed : Backed locks db write
  fresh : ∀ adjustment ∈ write.review, adjustment.adjustmentId ∉ own.reviewed

def AtPhase (now : ℕ) (own : OwnWrites) (locks : List StockLock) (db : StockDb) :
    StockPhase → Prop
  | .next => True
  | .advised cell _ _ _ => .advisory cell ∈ locks
  | .approving adjustment =>
      UnderReview locks db adjustment ∧ adjustment.adjustmentId ∉ own.reviewed
  | .ready write => Fits now own locks db write

structure Known (request : MovementRequest) (memory : StockMemory) (db : StockDb) : Prop where
  held : Held request.now memory.own memory.locks db
  phase : AtPhase request.now memory.own memory.locks db memory.phase

/-! ## What a task reports -/

def StockAction.mayReport : StockAction → List (Cell × ℤ) → Prop
  | .addInventory cell _ quantity _, changes
  | .creditDestination cell _ quantity, changes
  | .importItem cell _ quantity, changes => changes = [(cell, (quantity : ℤ))]
  | .lower lowering cell quantity, changes =>
      changes = [(cell, -(quantity : ℤ))] ∨ (lowering.passesOver = true ∧ changes = [])
  | .inventoryUpdate cell _ _, changes =>
      changes = [] ∨ ∃ change, changes = [(cell, change)]
  | .confirmPick cell picked _, changes => changes = [(cell, -(picked : ℤ))]
  | .review _ _, changes => changes = [] ∨ ∃ change, changes = [change]

/-- The changes of the tasks, one after the other. -/
inductive Reports : List StockTask → List (Cell × ℤ) → Prop
  | nil : Reports [] []
  | cons {task : StockTask} {rest : List StockTask} {changes others : List (Cell × ℤ)}
      (hfirst : task.action.mayReport changes) (hrest : Reports rest others) :
      Reports (task :: rest) (changes ++ others)

/-- What the rest of the first task will report. -/
def StockPhase.report : StockPhase → Option (Cell × ℤ)
  | .next => none
  | .advised cell _ quantity _ => some (cell, (quantity : ℤ))
  | .approving adjustment =>
      some (⟨adjustment.itemId, adjustment.binId⟩, adjustment.quantityChange)
  | .ready write => some write.report

/-- What may still be reported. -/
def Remaining (memory : StockMemory) (changes : List (Cell × ℤ)) : Prop :=
  match memory.phase.report with
  | none => Reports memory.todo changes
  | some report => ∃ others, changes = report :: others ∧ Reports memory.todo.tail others

structure Accounted (request : MovementRequest) (memory : StockMemory) (_ : StockDb) :
    Prop where
  working : memory.phase ≠ .next → memory.todo ≠ []
  reports : ∀ changes, Remaining memory changes →
    Reports request.tasks (memory.own.writes.map StockWrite.report ++ changes)

variable {position newId warehouseId quantity : ℕ} {row : InventoryRow} {cell : Cell}
  {lotNumber : Option String} {rows : StockRows} {locks : List StockLock}
  {advised : Bool} {task : StockTask} {rest : List StockTask}
  {adjustment : InventoryAdjustment}

variable {wanted : List StockLock} {outcome : StockOutcome} {found : List InventoryRow}
  {lowering : Lowering} {adjustmentId : ℕ} {answer : StockAnswer}

/-! ## What a statement does -/

section Statements

variable {request : MovementRequest} {memory next : StockMemory} {isLocked : StockLock → Bool}
  {db : StockDb}

/-- The report is the one the phase has promised, or one the task may make. -/
def Promised (memory : StockMemory) (report : Cell × ℤ) : Prop :=
  memory.phase.report = some report ∨
    memory.phase = .next ∧ ∃ task rest, memory.todo = task :: rest ∧ task.action.mayReport [report]

/-- An insert that is to be advised finds no twin. -/
def TwinFree (request : MovementRequest) (memory : StockMemory) (db : StockDb)
    (write : StockWrite) : Prop :=
  write.effect.unadvised = false → NoTwin write (memory.own.inventory request.now db)

/-- How a transaction stays open: it locks what is free, and moves on within its task,
leaves the task, takes up the addition it has come to, rejects an adjustment, or writes. -/
inductive StockStep (request : MovementRequest) (memory : StockMemory)
    (isLocked : StockLock → Bool) (db : StockDb) : StockMemory → Prop
  | advance (locks : List StockLock) (phase : StockPhase) (report : Cell × ℤ)
      (hfree : ∀ lock ∈ locks, isLocked lock = false)
      (hphase : AtPhase request.now memory.own memory.locks db memory.phase →
        AtPhase request.now memory.own (locks ++ memory.locks) db phase)
      (htwin : ∀ write, phase = .ready write → TwinFree request memory db write)
      (hreport : phase.report = some report) (hpromised : Promised memory report) :
      StockStep request memory isLocked db ((memory.to phase).holding locks)
  | skip (locks : List StockLock) (hfree : ∀ lock ∈ locks, isLocked lock = false)
      (hnext : memory.phase = .next) (task : StockTask) (rest : List StockTask)
      (htodo : memory.todo = task :: rest) (hnone : task.action.mayReport []) :
      StockStep request memory isLocked db (memory.finish.holding locks)
  | replace (locks : List StockLock) (hfree : ∀ lock ∈ locks, isLocked lock = false)
      (hnext : memory.phase = .next) (task task' : StockTask) (rest : List StockTask)
      (htodo : memory.todo = task :: rest)
      (hreports : ∀ changes, task'.action.mayReport changes → task.action.mayReport changes) :
      StockStep request memory isLocked db
        (StockMemory.holding locks { memory with todo := task' :: rest })
  | reject (locks : List StockLock) (hfree : ∀ lock ∈ locks, isLocked lock = false)
      (hnext : memory.phase = .next) (task : StockTask) (rest : List StockTask)
      (htodo : memory.todo = task :: rest) (hnone : task.action.mayReport [])
      (adjustment : InventoryAdjustment)
      (hreview : UnderReview (locks ++ memory.locks) db adjustment)
      (hfresh : adjustment.adjustmentId ∉ memory.own.reviewed) :
      StockStep request memory isLocked db
        (StockMemory.holding locks
          { memory.finish with
            own := { memory.own with
              rejected := memory.own.rejected ++ [adjustment.adjustmentId] } })
  | write (write : StockWrite)
      (hfree : ∀ inventoryId ∈ write.effect.rowIds, isLocked (.row inventoryId) = false)
      (hfits : AtPhase request.now memory.own memory.locks db memory.phase →
        Fits request.now memory.own memory.locks db write)
      (htwin : memory.phase = .ready write ∨ TwinFree request memory db write)
      (hkey : ¬ KeyTaken write (memory.own.inventory request.now db))
      (hpromised : Promised memory write.report) :
      StockStep request memory isLocked db
        (StockMemory.holding (write.effect.rowIds.map .row)
          { memory.finish with
            own := { memory.own with writes := memory.own.writes ++ [write] } })

theorem acquire_proceed (hproceed : acquire isLocked wanted outcome = .proceed next) :
    (∀ lock ∈ wanted, isLocked lock = false) ∧ outcome = .proceed next := by
  rw [acquire] at hproceed
  split at hproceed
  · cases hproceed
  · rename_i hlocked
    refine ⟨?_, hproceed⟩
    intro lock hlock
    by_contra hheld
    exact hlocked ⟨lock, hlock, by simpa using hheld⟩

/-- Neither a commit nor the answer of one. -/
def Stays : StockOutcome → Prop
  | .commit _ _ => False
  | .rollback (.done _) => False
  | _ => True

theorem stays_acquire (hstays : Stays outcome) : Stays (acquire isLocked wanted outcome) := by
  rw [acquire]
  split
  · trivial
  · exact hstays

theorem stays_performWrite (write : StockWrite) :
    Stays (performWrite request memory isLocked db write) := by
  apply stays_acquire
  split <;> trivial

theorem performWrite_proceed {write : StockWrite}
    (hfits : AtPhase request.now memory.own memory.locks db memory.phase →
      Fits request.now memory.own memory.locks db write)
    (htwin : memory.phase = .ready write ∨ TwinFree request memory db write)
    (hpromised : Promised memory write.report)
    (hproceed : performWrite request memory isLocked db write = .proceed next) :
    StockStep request memory isLocked db next := by
  obtain ⟨hfree, hproceed⟩ := acquire_proceed hproceed
  split at hproceed
  · cases hproceed
  · rename_i hneither
    cases hproceed
    apply StockStep.write write _ hfits htwin (fun hkey => hneither (Or.inl hkey)) hpromised
    intro inventoryId hid
    exact hfree _ (List.mem_map_of_mem hid)

theorem fetchOne_mem (hrow : fetchOne position found = some row) : row ∈ found :=
  List.mem_of_getElem? hrow

theorem fetchOne_none (hnone : fetchOne position found = none) : found = [] := by
  cases found with
  | nil => rfl
  | cons first rest =>
      rw [fetchOne, List.getElem?_eq_none_iff] at hnone
      have hlt := Nat.mod_lt position (Nat.succ_pos rest.length)
      exact absurd hnone (Nat.not_le.mpr hlt)

theorem mem_lotRows :
    row ∈ lotRows cell lotNumber rows ↔
      row ∈ rows.rows ∧ cellOf row = cell ∧ row.lotNumber = lotNumber := by
  rw [lotRows, Table.select, List.mem_filter, decide_eq_true_eq]

theorem mem_cellRows : row ∈ cellRows cell rows ↔ row ∈ rows.rows ∧ cellOf row = cell := by
  rw [cellRows, Table.select, List.mem_filter, decide_eq_true_eq]

theorem Lowering.cell_of_finds (hrow : row ∈ lowering.finds cell rows) :
    row ∈ rows.rows ∧ cellOf row = cell := by
  cases lowering with
  | move lotNumber =>
      have hfound := mem_lotRows.mp hrow
      exact ⟨hfound.1, hfound.2.1⟩
  | interWarehouse | remove | importRow => exact mem_cellRows.mp hrow

/-- A quantity set from a row of the view. -/
theorem fits_setWrite {change : ℤ} (hrow : row ∈ (memory.own.inventory request.now db).rows)
    (hcell : cellOf row = cell) (hnonneg : 0 ≤ row.quantityOnHand + change) :
    Fits request.now memory.own locks db (setWrite cell change row) where
  targets :=
    { touched := by
        intro inventoryId htouched
        rw [List.mem_singleton.mp htouched]
        exact ⟨row, hrow, rfl, hcell⟩
      inserted := by
        intro inserted hinserted
        cases hinserted }
  backed :=
    { sane := (max_eq_right hnonneg).symm
      review := by
        intro adjustment hadjustment
        cases hadjustment
      advised := by
        intro inserted hinserted
        cases hinserted }
  fresh := by
    intro adjustment hadjustment
    cases hadjustment

theorem fits_addWrite (hadvised : advised = true → .advisory cell ∈ locks) :
    Fits request.now memory.own locks db
      (addWrite request.now newId cell warehouseId quantity lotNumber advised
        (fetchOne position (lotRows cell lotNumber (memory.own.inventory request.now db)))) := by
  cases hexisting : fetchOne position
      (lotRows cell lotNumber (memory.own.inventory request.now db)) with
  | some row =>
      have hfound := mem_lotRows.mp (fetchOne_mem hexisting)
      refine ⟨⟨?_, ?_⟩, ⟨rfl, ?_, ?_⟩, ?_⟩
      · intro inventoryId htouched
        rw [List.mem_singleton.mp htouched]
        exact ⟨row, hfound.1, rfl, hfound.2.1⟩
      · intro inserted hinserted
        cases hinserted
      · intro adjustment hadjustment
        cases hadjustment
      · intro inserted hinserted
        cases hinserted
      · intro adjustment hadjustment
        cases hadjustment
  | none =>
      refine ⟨⟨?_, ?_⟩, ⟨⟨Int.natCast_nonneg quantity, rfl⟩, ?_, ?_⟩, ?_⟩
      · intro inventoryId htouched
        cases htouched
      · intro inserted hinserted
        cases hinserted
        rfl
      · intro adjustment hadjustment
        cases hadjustment
      · intro inserted hinserted
        cases hinserted
        exact hadvised rfl
      · intro adjustment hadjustment
        cases hadjustment

theorem twinFree_addWrite :
    TwinFree request memory db
      (addWrite request.now newId cell warehouseId quantity lotNumber advised
        (fetchOne position (lotRows cell lotNumber (memory.own.inventory request.now db)))) := by
  intro _ row hrow stored hstored hcell hlot
  cases hexisting : fetchOne position
      (lotRows cell lotNumber (memory.own.inventory request.now db)) with
  | some existing =>
      rw [hexisting] at hrow
      cases hrow
  | none =>
      rw [hexisting] at hrow
      cases hrow
      have hfound : stored ∈ lotRows cell lotNumber (memory.own.inventory request.now db) :=
        mem_lotRows.mpr ⟨hstored, hcell, hlot⟩
      rw [fetchOne_none hexisting] at hfound
      cases hfound

theorem selectExisting_proceed
    (hadvised : AtPhase request.now memory.own memory.locks db memory.phase →
      advised = true → .advisory cell ∈ memory.locks)
    (hpromised : Promised memory (cell, (quantity : ℤ)))
    (hproceed : selectExisting request memory isLocked db task cell warehouseId quantity
      lotNumber advised = .proceed next) : StockStep request memory isLocked db next := by
  obtain ⟨hfree, hproceed⟩ := acquire_proceed hproceed
  cases hproceed
  refine StockStep.advance _ _ (cell, (quantity : ℤ)) hfree ?_ ?_ rfl hpromised
  · intro hphase
    apply fits_addWrite
    intro hlock
    exact List.mem_append_right _ (hadvised hphase hlock)
  · intro write hwrite
    cases hwrite
    exact twinFree_addWrite

theorem filter_eq_some {Value : Type*} {value? : Option Value} {test : Value → Prop}
    [DecidablePred test] {value : Value}
    (hvalue : value?.filter (fun value => test value) = some value) :
    value? = some value ∧ test value := by
  rw [Option.filter_eq_some_iff] at hvalue
  exact ⟨hvalue.1, by simpa using hvalue.2⟩

theorem lowerStatement_proceed (hnext : memory.phase = .next) (htodo : memory.todo = task :: rest)
    (haction : task.action = .lower lowering cell quantity)
    (hproceed : lowerStatement request memory isLocked db task lowering cell quantity =
      .proceed next) : StockStep request memory isLocked db next := by
  obtain ⟨hfree, hproceed⟩ := acquire_proceed hproceed
  split at hproceed
  · rename_i row hfound
    cases hproceed
    obtain ⟨hrow, hquantity⟩ := filter_eq_some hfound
    obtain ⟨hstored, hcell⟩ := Lowering.cell_of_finds (fetchOne_mem hrow)
    refine StockStep.advance _ _ (cell, -(quantity : ℤ)) hfree ?_ ?_ rfl ?_
    · intro _
      exact fits_setWrite hstored hcell (by omega)
    · intro write hwrite _ inserted hinserted
      cases hwrite
      cases hinserted
    · refine Or.inr ⟨hnext, task, rest, htodo, ?_⟩
      rw [haction]
      exact Or.inl rfl
  · split at hproceed
    · rename_i hpasses
      cases hproceed
      refine StockStep.skip _ hfree hnext task rest htodo ?_
      rw [haction]
      exact Or.inr ⟨hpasses, rfl⟩
    · cases hproceed

theorem inventoryUpdateStatement_proceed {targetQuantity : ℕ}
    (hnext : memory.phase = .next) (htodo : memory.todo = task :: rest)
    (haction : task.action = .inventoryUpdate cell warehouseId targetQuantity)
    (hproceed : inventoryUpdateStatement request memory isLocked db task cell warehouseId
      targetQuantity = .proceed next) : StockStep request memory isLocked db next := by
  obtain ⟨hfree, hproceed⟩ := acquire_proceed hproceed
  cases hproceed
  split
  · rw [htodo]
    refine StockStep.replace _ hfree hnext task _ rest htodo ?_
    intro changes hchanges
    rw [haction]
    exact Or.inr ⟨_, hchanges⟩
  · split
    · rename_i row hfound
      obtain ⟨hrow, hbelow⟩ := filter_eq_some hfound
      obtain ⟨hstored, hcell⟩ := mem_cellRows.mp (fetchOne_mem hrow)
      rw [hrow, Option.elim_some] at hbelow ⊢
      refine StockStep.advance _ _ (cell, (targetQuantity : ℤ) - row.quantityOnHand) hfree
        ?_ ?_ rfl ?_
      · intro _
        exact fits_setWrite hstored hcell (by omega)
      · intro write hwrite _ inserted hinserted
        cases hwrite
        cases hinserted
      · refine Or.inr ⟨hnext, task, rest, htodo, ?_⟩
        rw [haction]
        exact Or.inr ⟨_, rfl⟩
    · refine StockStep.skip _ hfree hnext task rest htodo ?_
      rw [haction]
      exact Or.inl rfl

/-- An adjustment that is still to be reviewed is stored so, and not among those the
transaction has reviewed. -/
theorem pendingAdjustment_spec {own : OwnWrites}
    (hpending : pendingAdjustment? db own adjustmentId = some adjustment) :
    adjustment.adjustmentId = adjustmentId ∧
      db.adjustments.find? adjustmentId = some adjustment ∧
        adjustment.status = .adjPending ∧ adjustmentId ∉ own.reviewed := by
  obtain ⟨hfound, hstatus⟩ := filter_eq_some hpending
  rw [OwnWrites.adjustments, Table.find?_update, Table.find?_update, Option.map_map,
    Option.map_eq_some_iff] at hfound
  obtain ⟨stored, hstored, hview⟩ := hfound
  have hid := Table.find?_key hstored
  simp only [Function.comp_apply, decide_eq_true_eq] at hview
  by_cases happroved : stored.adjustmentId ∈ approvedBy own.writes
  · rw [if_pos happroved] at hview
    by_cases hrejected : (setStatus .adjApproved stored).adjustmentId ∈ own.rejected
    · rw [if_pos hrejected] at hview
      rw [← hview] at hstatus
      cases hstatus
    · rw [if_neg hrejected] at hview
      rw [← hview] at hstatus
      cases hstatus
  · rw [if_neg happroved] at hview
    by_cases hrejected : stored.adjustmentId ∈ own.rejected
    · rw [if_pos hrejected] at hview
      rw [← hview] at hstatus
      cases hstatus
    · rw [if_neg hrejected] at hview
      subst hview
      refine ⟨hid, hstored, hstatus, ?_⟩
      rw [OwnWrites.reviewed, List.mem_append, ← hid]
      exact not_or.mpr ⟨happroved, hrejected⟩

theorem reviewStatement_proceed {approve : Bool} (hnext : memory.phase = .next)
    (htodo : memory.todo = task :: rest)
    (haction : task.action = .review adjustmentId approve)
    (hproceed : reviewStatement request memory isLocked db adjustmentId approve =
      .proceed next) : StockStep request memory isLocked db next := by
  obtain ⟨hfree, hproceed⟩ := acquire_proceed hproceed
  have hnone : task.action.mayReport [] := by
    rw [haction]
    exact Or.inl rfl
  split at hproceed
  · cases hproceed
    exact StockStep.skip _ hfree hnext task rest htodo hnone
  · rename_i adjustment hpending
    obtain ⟨rfl, hstored, hstatus, hfresh⟩ := pendingAdjustment_spec hpending
    have hreview : UnderReview
        (adjustmentLocks db adjustment.adjustmentId ++ memory.locks) db adjustment := by
      refine ⟨?_, hstored, hstatus⟩
      rw [adjustmentLocks, hstored]
      exact List.mem_cons_self
    split at hproceed
    · split at hproceed
      · cases hproceed
      · cases hproceed
        refine StockStep.advance _ _ _ hfree (fun _ => ⟨hreview, hfresh⟩) ?_ rfl ?_
        · intro write hwrite
          cases hwrite
        · refine Or.inr ⟨hnext, task, rest, htodo, ?_⟩
          rw [haction]
          exact Or.inr ⟨_, rfl⟩
    · cases hproceed
      exact StockStep.reject _ hfree hnext task rest htodo hnone adjustment hreview hfresh

/-- The write of an approval, for whichever row of the bin was read. -/
theorem fits_approvalWrite (hreview : UnderReview locks db adjustment)
    (hfresh : adjustment.adjustmentId ∉ memory.own.reviewed) :
    Fits request.now memory.own locks db
      (approvalWrite request.now newId adjustment (fetchOne position
        (cellRows ⟨adjustment.itemId, adjustment.binId⟩
          (memory.own.inventory request.now db)))) := by
  have hreviews : ∀ reviewed ∈ some adjustment, UnderReview locks db reviewed ∧
      (⟨adjustment.itemId, adjustment.binId⟩ : Cell) = ⟨reviewed.itemId, reviewed.binId⟩ ∧
        adjustment.quantityChange = reviewed.quantityChange := by
    intro reviewed hreviewed
    cases hreviewed
    exact ⟨hreview, rfl, rfl⟩
  have hnew : ∀ reviewed ∈ some adjustment,
      reviewed.adjustmentId ∉ memory.own.reviewed := by
    intro reviewed hreviewed
    cases hreviewed
    exact hfresh
  cases hexisting : fetchOne position (cellRows ⟨adjustment.itemId, adjustment.binId⟩
      (memory.own.inventory request.now db)) with
  | some row =>
      obtain ⟨hstored, hcell⟩ := mem_cellRows.mp (fetchOne_mem hexisting)
      refine ⟨⟨?_, ?_⟩, ⟨rfl, hreviews, ?_⟩, hnew⟩
      · intro inventoryId htouched
        rw [List.mem_singleton.mp htouched]
        exact ⟨row, hstored, rfl, hcell⟩
      · intro inserted hinserted
        cases hinserted
      · intro inserted hinserted
        cases hinserted
  | none =>
      by_cases hpositive : 0 < adjustment.quantityChange
      · have heffect : (approvalWrite request.now newId adjustment none).effect =
            .insert (newRow request.now newId ⟨adjustment.itemId, adjustment.binId⟩
              adjustment.warehouseId adjustment.quantityChange none) false := if_pos hpositive
        refine ⟨⟨?_, ?_⟩, ⟨?_, hreviews, ?_⟩, hnew⟩
        · rw [heffect]
          intro inventoryId htouched
          cases htouched
        · rw [heffect]
          intro inserted hinserted
          cases hinserted
          rfl
        · rw [StockWrite.Sane, heffect]
          exact ⟨hpositive.le, rfl⟩
        · rw [heffect]
          intro inserted hinserted
          cases hinserted
      · have heffect : (approvalWrite request.now newId adjustment none).effect = .nothing :=
          if_neg hpositive
        refine ⟨⟨?_, ?_⟩, ⟨?_, hreviews, ?_⟩, hnew⟩
        · rw [heffect]
          intro inventoryId htouched
          cases htouched
        · rw [heffect]
          intro inserted hinserted
          cases hinserted
        · rw [StockWrite.Sane, heffect]
          trivial
        · rw [heffect]
          intro inserted hinserted
          cases hinserted

theorem twinFree_approvalWrite {existing : Option InventoryRow} :
    TwinFree request memory db (approvalWrite request.now newId adjustment existing) := by
  intro hadvised row hrow
  cases existing with
  | some found => cases hrow
  | none =>
      by_cases hpositive : 0 < adjustment.quantityChange
      · simp [approvalWrite, hpositive, StockEffect.unadvised] at hadvised
      · simp [approvalWrite, hpositive, StockEffect.inserted] at hrow

theorem firstStatement_proceed (hnext : memory.phase = .next) (htodo : memory.todo = task :: rest)
    (hproceed : firstStatement request memory isLocked db task = .proceed next) :
    StockStep request memory isLocked db next := by
  have hpromised : ∀ report, task.action.mayReport [report] → Promised memory report :=
    fun report hreport => Or.inr ⟨hnext, task, rest, htodo, hreport⟩
  rw [firstStatement] at hproceed
  split at hproceed
  · rename_i cell warehouseId quantity lotNumber haction
    obtain ⟨hfree, hproceed⟩ := acquire_proceed hproceed
    cases hproceed
    refine StockStep.advance _ _ (cell, (quantity : ℤ)) hfree
      (fun _ => List.mem_append_left _ List.mem_cons_self) ?_ rfl (hpromised _ ?_)
    · intro write hwrite
      cases hwrite
    · rw [haction]
      rfl
  · rename_i haction
    exact lowerStatement_proceed hnext htodo haction hproceed
  · rename_i haction
    exact inventoryUpdateStatement_proceed hnext htodo haction hproceed
  · rename_i cell picked allocated haction
    refine performWrite_proceed ?_ (Or.inr ?_) (hpromised _ ?_) hproceed
    · intro _
      refine ⟨⟨?_, ?_⟩, ⟨rfl, ?_, ?_⟩, ?_⟩
      · intro inventoryId htouched
        obtain ⟨row, hrow, rfl⟩ := List.mem_map.mp htouched
        obtain ⟨hstored, hcell⟩ := mem_cellRows.mp hrow
        exact ⟨row, hstored, rfl, hcell⟩
      · intro inserted hinserted
        cases hinserted
      · intro adjustment hadjustment
        cases hadjustment
      · intro inserted hinserted
        cases hinserted
      · intro adjustment hadjustment
        cases hadjustment
    · intro _ inserted hinserted
      cases hinserted
    · rw [haction]
      rfl
  · rename_i cell warehouseId quantity haction
    refine selectExisting_proceed ?_ (hpromised _ ?_) hproceed
    · intro _ hadvised
      cases hadvised
    · rw [haction]
      rfl
  · rename_i cell warehouseId quantity haction
    refine performWrite_proceed ?_ (Or.inr ?_) (hpromised _ ?_) hproceed
    · intro _
      refine ⟨⟨?_, ?_⟩, ⟨⟨Int.natCast_nonneg quantity, rfl⟩, ?_, ?_⟩, ?_⟩
      · intro inventoryId htouched
        cases htouched
      · intro inserted hinserted
        cases hinserted
        rfl
      · intro adjustment hadjustment
        cases hadjustment
      · intro inserted hinserted
        cases hinserted
      · intro adjustment hadjustment
        cases hadjustment
    · intro hadvised
      cases hadvised
    · rw [haction]
      rfl
  · rename_i haction
    exact reviewStatement_proceed hnext htodo haction hproceed

theorem stockStatement_proceed
    (hproceed : stockStatement request memory isLocked db = .proceed next) :
    StockStep request memory isLocked db next := by
  rw [stockStatement] at hproceed
  split at hproceed
  · cases hproceed
  · rename_i task rest htodo
    split at hproceed
    · rename_i hphase
      exact firstStatement_proceed hphase htodo hproceed
    · rename_i cell warehouseId quantity lotNumber hphase
      refine selectExisting_proceed ?_ (Or.inl ?_) hproceed
      · intro hat _
        rw [hphase] at hat
        exact hat
      · rw [hphase]
        rfl
    · rename_i adjustment hphase
      cases hproceed
      refine StockStep.advance [] (.ready (approvalWrite request.now task.newId adjustment _))
        _ ?_ ?_ ?_ rfl (Or.inl ?_)
      · intro lock hlock
        cases hlock
      · intro hat
        rw [hphase] at hat
        exact fits_approvalWrite hat.1 hat.2
      · intro write hwrite
        cases hwrite
        exact twinFree_approvalWrite
      · rw [hphase]
        rfl
    · rename_i write hphase
      refine performWrite_proceed ?_ (Or.inl hphase) (Or.inl ?_) hproceed
      · intro hat
        rw [hphase] at hat
        exact hat
      · rw [hphase]
        rfl

theorem stays_reviewStatement (adjustmentId : ℕ) (approve : Bool) :
    Stays (reviewStatement request memory isLocked db adjustmentId approve) := by
  apply stays_acquire
  split
  · trivial
  · split
    · split <;> trivial
    · trivial

theorem stays_firstStatement (task : StockTask) :
    Stays (firstStatement request memory isLocked db task) := by
  rw [firstStatement]
  split
  · exact stays_acquire trivial
  · apply stays_acquire
    split
    · trivial
    · split <;> trivial
  · exact stays_acquire trivial
  · exact stays_performWrite _
  · exact stays_acquire trivial
  · exact stays_performWrite _
  · exact stays_reviewStatement _ _

/-- A transaction with a task left does not commit. -/
theorem stays_stockStatement (htodo : memory.todo = task :: rest) :
    Stays (stockStatement request memory isLocked db) := by
  rw [stockStatement, htodo]
  change Stays (match memory.phase with
    | .next => _
    | .advised _ _ _ _ => _
    | .approving _ => _
    | .ready _ => _)
  split
  · exact stays_firstStatement task
  · exact stays_acquire trivial
  · trivial
  · exact stays_performWrite _

theorem stockStatement_commit {world : StockDb}
    (hcommit : stockStatement request memory isLocked db = .commit world answer) :
    memory.todo = [] ∧ world = memory.own.commit request.now db ∧
      answer = .done (memory.own.writes.map StockWrite.report) := by
  cases htodo : memory.todo with
  | nil =>
      rw [stockStatement, htodo] at hcommit
      cases hcommit
      exact ⟨rfl, rfl, rfl⟩
  | cons task rest =>
      have hstays : Stays (stockStatement request memory isLocked db) := stays_stockStatement htodo
      rw [hcommit] at hstays
      exact hstays.elim

theorem stockStatement_rollback
    (hrollback : stockStatement request memory isLocked db = .rollback answer)
    (changes : List (Cell × ℤ)) : answer ≠ .done changes := by
  rintro rfl
  cases htodo : memory.todo with
  | nil =>
      rw [stockStatement, htodo] at hrollback
      cases hrollback
  | cons task rest =>
      have hstays : Stays (stockStatement request memory isLocked db) := stays_stockStatement htodo
      rw [hrollback] at hstays
      exact hstays

end Statements

end SentryWms.Stock

import SentryWms.Receiving.Ledger
import SentryWms.Relational.Answers
import SentryWms.SalesOrders.CancelRelease
import SentryWms.SalesOrders.ReturnStatements

/-!
# Returns received and voided side by side

No identifier is stored twice, so a key restocks once, and a void sees every receipt of
the order it has locked.  The guard of a receive compares with a line that was read
without a lock, and nothing in a receive looks at `voided_at`.
-/

namespace SentryWms.SalesOrders

open Relational Sessions Inventory Receiving

/-! ## What is kept -/

/-- No line has received more than was expected back, and no order is both voided and
referenced by a receipt. -/
structure ReturnsKept (db : Db) : Prop where
  received : ∀ line ∈ db.salesOrderLines.rows, line.quantityReceived ≤ line.quantityOrdered
  voided : ∀ order ∈ db.salesOrders.rows, order.voidedAt.isSome → referenced db order.soId = false

instance (db : Db) : Decidable (ReturnsKept db) :=
  decidable_of_iff
    ((∀ line ∈ db.salesOrderLines.rows, line.quantityReceived ≤ line.quantityOrdered) ∧
      ∀ order ∈ db.salesOrders.rows, order.voidedAt.isSome → referenced db order.soId = false)
    ⟨fun h => ⟨h.1, h.2⟩, fun h => ⟨h.received, h.voided⟩⟩

/-- `item_receipts.external_id` is unique. -/
def UniqueReceipts (db : Db) : Prop := (db.itemReceipts.rows.map ItemReceipt.externalId).Nodup

instance (db : Db) : Decidable (UniqueReceipts db) := inferInstanceAs (Decidable (List.Nodup _))

/-- What a transaction counts on: a receive that has inserted its receipt is the only one
of its identifier, and a void that has read no receipts has none to fear. -/
def Knows : ReturnRequest → ReturnMemory → Db → Prop
  | .receive _ request _, .receiving point, db =>
      1 ≤ point.writes → storedReceipt db request.storedUnder = false
  | .void _ soId, .cleared, db => referenced db soId = false
  | _, _, _ => True

/-! ## What a commit writes -/

section Writes

variable (ctx : RequestContext) (request : ReceiveRmaRequest) (soLineId : ℕ)
  (status : SalesOrderStatus) (db : Db)

theorem returnReceipt_key (request : ReceiveRmaRequest) (soLineId value : ℕ) :
    (returnReceipt request soLineId value).receiptId = value :=
  rfl

theorem storeReturn_itemReceipts :
    (storeReturn ctx request soLineId status db).itemReceipts =
      db.itemReceipts.insert (returnReceipt request soLineId)
        (returnReceipt_key request soLineId) := by
  rw [storeReturn, (sameBooks_emitEvent ..).itemReceipts]
  exact (sameBooks_addInventory ..).itemReceipts

theorem storeReturn_salesOrderLines :
    (storeReturn ctx request soLineId status db).salesOrderLines =
      db.salesOrderLines.updateKey soLineId (receiveUnits request.quantity)
        (receivedUnits_key request) := by
  rw [storeReturn, (sameBooks_emitEvent ..).salesOrderLines]
  rw [setOrderStatus, updateLine, (sameBooks_addInventory ..).salesOrderLines]

theorem storedReceipt_storeReturn (externalId : String) :
    storedReceipt (storeReturn ctx request soLineId status db) externalId =
      (storedReceipt db externalId || decide (request.storedUnder = externalId)) := by
  rw [storedReceipt, storeReturn_itemReceipts, Table.insert, List.any_append]
  simp [storedReceipt, returnReceipt]

theorem referenced_storeReturn (soId : ℕ) :
    referenced (storeReturn ctx request soLineId status db) soId =
      (referenced db soId || decide (request.rmaSoId = soId)) := by
  rw [referenced, storeReturn_itemReceipts, Table.insert, List.any_append]
  simp [referenced, returnReceipt]

theorem storeReturn_salesOrders :
    (storeReturn ctx request soLineId status db).salesOrders =
      db.salesOrders.updateKey request.rmaSoId fun order =>
        { order with status := status } := by
  have hstock : (addInventory ctx.now request.itemId request.binId request.warehouseId
      request.quantity none
      { db with itemReceipts := (db.itemReceipts.insert (returnReceipt request soLineId)
          (fun _ => rfl)) }).salesOrders = db.salesOrders := by
    unfold addInventory
    split <;> rfl
  rw [storeReturn, (emitEvent_frame ..).2.2, setOrderStatus, updateLine, hstock]

theorem onHandAt_storeReturn (itemId binId : ℕ) :
    onHandAt (storeReturn ctx request soLineId status db) itemId binId =
      onHandAt db itemId binId +
        if request.itemId = itemId ∧ request.binId = binId then request.quantity else 0 := by
  have hevent : ∀ state : Db, onHandAt (emitEvent ctx .returnReceived db.itemReceipts.nextKey
      request.warehouseId state) itemId binId = onHandAt state itemId binId := by
    intro state
    rw [onHandAt, onHandOver, (emitEvent_frame ..).1]
    rfl
  rw [storeReturn, hevent]
  exact onHandAt_addInventory ..

end Writes

/-! ## What a receive needs when it commits -/

/-- The line still expects that many units, and the return is not voided. -/
def Fits (db : Db) (request : ReceiveRmaRequest) (soLineId : ℕ) : Prop :=
  (∀ line ∈ db.salesOrderLines.rows, line.soLineId = soLineId →
    line.quantityReceived + request.quantity ≤ line.quantityOrdered) ∧
    ∀ order ∈ db.salesOrders.rows, order.soId = request.rmaSoId → order.voidedAt = none

/-- A receive that is about to commit fits; nothing is asked of the rest. -/
def MayBook : ReturnRequest → ReturnMemory → Db → Prop
  | .receive _ request _, .receiving (.judged soLineId _), db => Fits db request soLineId
  | _, _, _ => True

instance (db : Db) (request : ReceiveRmaRequest) (soLineId : ℕ) :
    Decidable (Fits db request soLineId) :=
  inferInstanceAs (Decidable ((∀ _ ∈ _, _ → _) ∧ ∀ _ ∈ _, _ → _))

instance (request : ReturnRequest) (memory : ReturnMemory) (db : Db) :
    Decidable (MayBook request memory db) := by
  unfold MayBook
  split <;> infer_instance

variable {ctx : RequestContext} {soLineId : ℕ} {status : SalesOrderStatus}
  {isLocked : ReturnLock → Bool} {request : ReturnRequest} {memory : ReturnMemory}
  {next : Db} {answer : ReturnAnswer}

section Bookings

variable {db : Db}

theorem receivedWithin_storeReturn {request : ReceiveRmaRequest}
    (hwithin : ∀ line ∈ db.salesOrderLines.rows, line.quantityReceived ≤ line.quantityOrdered) :
    (∀ line ∈ (storeReturn ctx request soLineId status db).salesOrderLines.rows,
        line.quantityReceived ≤ line.quantityOrdered) ↔
      ∀ line ∈ db.salesOrderLines.rows, line.soLineId = soLineId →
        line.quantityReceived + request.quantity ≤ line.quantityOrdered := by
  rw [storeReturn_salesOrderLines]
  constructor
  · intro hafter line hline hhere
    have hmem : receiveUnits request.quantity line ∈
        (db.salesOrderLines.updateKey soLineId (receiveUnits request.quantity)
          fun _ => rfl).rows :=
      List.mem_map.mpr ⟨line, hline, if_pos (decide_eq_true hhere)⟩
    exact hafter _ hmem
  · intro hroom after hafter
    obtain ⟨line, hline, rfl⟩ := Table.exists_of_mem_updateKey hafter
    split
    · rename_i hhere
      exact hroom line hline hhere
    · exact hwithin line hline

theorem voidedClear_storeReturn {request : ReceiveRmaRequest}
    (hclear : ∀ order ∈ db.salesOrders.rows, order.voidedAt.isSome →
      referenced db order.soId = false) :
    (∀ order ∈ (storeReturn ctx request soLineId status db).salesOrders.rows,
        order.voidedAt.isSome →
          referenced (storeReturn ctx request soLineId status db) order.soId = false) ↔
      ∀ order ∈ db.salesOrders.rows, order.soId = request.rmaSoId → order.voidedAt = none := by
  simp only [referenced_storeReturn, Bool.or_eq_false_iff, decide_eq_false_iff_not]
  rw [storeReturn_salesOrders]
  constructor
  · intro hafter order horder hhere
    have hmem : { order with status := status } ∈ (db.salesOrders.updateKey request.rmaSoId
        (fun order => { order with status := status }) fun _ => rfl).rows :=
      List.mem_map.mpr ⟨order, horder, if_pos (decide_eq_true hhere)⟩
    by_contra hvoided
    exact (hafter _ hmem (Option.isSome_iff_ne_none.mpr hvoided)).2 hhere.symm
  · intro hunvoided after hafter hvoided
    obtain ⟨order, horder, rfl⟩ := Table.exists_of_mem_updateKey hafter
    split at hvoided
    · rename_i hhere
      rw [hunvoided order horder hhere] at hvoided
      cases hvoided
    · rename_i hother
      rw [if_neg hother]
      exact ⟨hclear order horder hvoided, fun hsame => hother hsame.symm⟩

/-- A booking keeps the returns exactly where it fits. -/
theorem returnsKept_storeReturn {request : ReceiveRmaRequest} (hkept : ReturnsKept db) :
    ReturnsKept (storeReturn ctx request soLineId status db) ↔ Fits db request soLineId := by
  constructor
  · intro hafter
    exact ⟨(receivedWithin_storeReturn hkept.received).mp hafter.received,
      (voidedClear_storeReturn hkept.voided).mp hafter.voided⟩
  · intro hfits
    exact ⟨(receivedWithin_storeReturn hkept.received).mpr hfits.1,
      (voidedClear_storeReturn hkept.voided).mpr hfits.2⟩

theorem stampVoided_salesOrders (ctx : RequestContext) (soId : ℕ) (db : Db) :
    (stampVoided ctx soId db).salesOrders = db.salesOrders.updateKey soId fun order =>
      { order with voidedAt := some ctx.now } := rfl

/-- A void of an order without receipts keeps the returns. -/
theorem returnsKept_stampVoided {soId : ℕ} (hkept : ReturnsKept db)
    (hnone : referenced db soId = false) : ReturnsKept (stampVoided ctx soId db) where
  received := hkept.received
  voided := by
    intro after hafter hvoided
    rw [stampVoided_salesOrders] at hafter
    obtain ⟨order, horder, rfl⟩ := Table.exists_of_mem_updateKey hafter
    change referenced db _ = false
    split at hvoided
    · rename_i hhere
      rw [if_pos hhere]
      exact hhere ▸ hnone
    · rename_i hother
      rw [if_neg hother]
      exact hkept.voided order horder hvoided

end Bookings

/-! ## Any order of statements -/

/-- Two locks keep each other out. -/
abbrev Rivals (lock taken : ReturnLock) : Prop := taken ∈ lock.rivals

theorem rivals_symm (lock taken : ReturnLock) (hrival : Rivals lock taken) : Rivals taken lock := by
  cases lock <;> cases taken <;> simp [Rivals, ReturnLock.rivals] at hrival ⊢ <;> grind

theorem free_of_not_taken {lock : ReturnLock} (hfree : lock.taken isLocked = false)
    {taken : ReturnLock} (hrival : Rivals lock taken) : isLocked taken = false := by
  rw [ReturnLock.taken, List.any_eq_false] at hfree
  simpa using hfree taken hrival

theorem return_acquires {next : ReturnMemory} {db : Db}
    (hproceed : returnStatement request memory isLocked db = .proceed next)
    {lock : ReturnLock} (hheld : returnHolds request next lock = true) :
    returnHolds request memory lock = true ∨
      ∀ taken, Rivals lock taken → isLocked taken = false := by
  cases return_step_of hproceed with
  | finds ctx request lineAt =>
      cases lock <;> simp [returnHolds, ReceivePoint.holds, ReceivePoint.writes,
        ReceivePoint.line?] at hheld
  | reads ctx request lineAt point next hwrites hline =>
      cases lock <;> simp [returnHolds, ReceivePoint.holds, hwrites, hline] at hheld
  | inserts ctx request lineAt soLineId hfree hnew =>
      cases lock with
      | receipt externalId =>
          right
          intro taken hrival
          have hsame : externalId = request.storedUnder := by
            simpa [returnHolds, ReceivePoint.holds, ReceivePoint.writes] using hheld
          subst hsame
          exact free_of_not_taken hfree hrival
      | _ =>
          simp [returnHolds, ReceivePoint.holds, ReceivePoint.writes, ReceivePoint.line?] at hheld
  | references ctx request lineAt soLineId hfree =>
      cases lock with
      | receipt externalId =>
          left
          simpa [returnHolds, ReceivePoint.holds, ReceivePoint.writes] using hheld
      | reference soId =>
          right
          intro taken hrival
          have hsame : soId = request.rmaSoId := by
            simpa [returnHolds, ReceivePoint.holds, ReceivePoint.writes] using hheld
          subst hsame
          exact free_of_not_taken hfree hrival
      | _ =>
          simp [returnHolds, ReceivePoint.holds, ReceivePoint.writes, ReceivePoint.line?] at hheld
  | stocks ctx request lineAt soLineId hfree =>
      cases lock with
      | stock itemId binId =>
          right
          intro taken hrival
          obtain ⟨rfl, rfl⟩ : itemId = request.itemId ∧ binId = request.binId := by
            simpa [returnHolds, ReceivePoint.holds, ReceivePoint.writes] using hheld
          exact free_of_not_taken hfree hrival
      | line soLineId =>
          simp [returnHolds, ReceivePoint.holds, ReceivePoint.line?] at hheld
      | order soId => simp [returnHolds, ReceivePoint.holds] at hheld
      | _ =>
          left
          simpa [returnHolds, ReceivePoint.holds, ReceivePoint.writes] using hheld
  | advances ctx request lineAt soLineId hfree =>
      cases lock with
      | line locked =>
          right
          intro taken hrival
          have hsame : soLineId = locked := by
            simpa [returnHolds, ReceivePoint.holds, ReceivePoint.line?] using hheld
          subst hsame
          exact free_of_not_taken hfree hrival
      | order soId => simp [returnHolds, ReceivePoint.holds] at hheld
      | _ =>
          left
          simpa [returnHolds, ReceivePoint.holds, ReceivePoint.writes] using hheld
  | counts ctx request lineAt soLineId status =>
      left
      cases lock <;> exact hheld
  | locks ctx soId order hfree =>
      cases lock with
      | order locked =>
          right
          intro taken hrival
          have hsame : soId = locked := by simpa [returnHolds] using hheld
          subst hsame
          exact free_of_not_taken hfree hrival
      | _ => simp [returnHolds] at hheld
  | clears ctx soId order hnone =>
      left
      cases lock <;> exact hheld

theorem return_proceeds {next : ReturnMemory} {db : Db} (hknows : Knows request memory db)
    (hproceed : returnStatement request memory isLocked db = .proceed next) :
    Knows request next db := by
  cases return_step_of hproceed with
  | finds ctx request lineAt =>
      intro hwrites
      cases hwrites
  | reads ctx request lineAt point next hwrites hline =>
      intro hinserted
      rw [hwrites] at hinserted
      cases hinserted
  | inserts ctx request lineAt soLineId hfree hnew => exact fun _ => hnew
  | references ctx request lineAt soLineId hfree => exact fun _ => hknows (le_refl 1)
  | stocks | advances | counts =>
      exact fun _ => hknows (by simp [ReceivePoint.writes])
  | locks ctx soId order hfree => trivial
  | clears ctx soId order hnone => exact hnone

theorem uniqueReceipts_storeReturn {request : ReceiveRmaRequest} {db : Db}
    (hunique : UniqueReceipts db)
    (hnew : storedReceipt db request.storedUnder = false) :
    UniqueReceipts (storeReturn ctx request soLineId status db) := by
  rw [UniqueReceipts, storeReturn_itemReceipts, Table.insert, List.map_append]
  apply List.Nodup.append hunique (List.nodup_singleton _)
  intro externalId hstored hadded
  rw [List.mem_singleton] at hadded
  subst hadded
  obtain ⟨receipt, hreceipt, hsame⟩ := List.mem_map.mp hstored
  rw [storedReceipt, List.any_eq_false] at hnew
  exact hnew receipt hreceipt (decide_eq_true hsame)

theorem return_commits {db : Db} (hunique : UniqueReceipts db) (hknows : Knows request memory db)
    (hcommit : returnStatement request memory isLocked db = .commit next answer) :
    UniqueReceipts next := by
  cases return_step_of hcommit with
  | replays ctx request lineAt receiptId status => exact hunique
  | books ctx request lineAt soLineId status =>
      exact uniqueReceipts_storeReturn hunique (hknows (by simp [ReceivePoint.writes]))
  | repeats | voids => exact hunique

/-- A booking leaves what the others know: it holds its identifier, and references an
order that no void has locked. -/
theorem knows_storeReturn {request : ReceiveRmaRequest} {lineAt : ℕ} {db : Db}
    {other : ReturnRequest} (hknows : Knows other memory db) (hapart : ∀ lock taken,
      returnHolds (.receive ctx request lineAt) (.receiving (.judged soLineId status)) lock = true →
        returnHolds other memory taken = true → ¬ Rivals lock taken) :
    Knows other memory (storeReturn ctx request soLineId status db) := by
  cases other with
  | receive ctx' other lineAt' =>
      cases memory with
      | receiving point =>
          intro hwrites
          rw [storedReceipt_storeReturn, hknows hwrites, Bool.false_or, decide_eq_false_iff_not]
          intro hsame
          apply hapart (.receipt request.storedUnder) (.receipt other.storedUnder)
          · simp [returnHolds, ReceivePoint.holds, ReceivePoint.writes]
          · simp [returnHolds, ReceivePoint.holds, hwrites]
          · simp [Rivals, ReturnLock.rivals, hsame]
      | start | voiding | cleared => trivial
  | void ctx' soId =>
      cases memory with
      | cleared =>
          have hnone : referenced db soId = false := hknows
          change referenced _ soId = false
          rw [referenced_storeReturn, hnone, Bool.false_or, decide_eq_false_iff_not]
          rintro rfl
          apply hapart (.reference request.rmaSoId) (.order request.rmaSoId)
          · simp [returnHolds, ReceivePoint.holds, ReceivePoint.writes]
          · simp [returnHolds]
          · simp [Rivals, ReturnLock.rivals]
      | start | receiving | voiding => trivial

theorem return_stable {db : Db} {other : ReturnRequest} {memory' : ReturnMemory}
    (hknows : Knows other memory' db)
    (hapart : ∀ lock taken, returnHolds request memory lock = true →
      returnHolds other memory' taken = true → ¬ Rivals lock taken)
    (hcommit : returnStatement request memory isLocked db = .commit next answer) :
    Knows other memory' next := by
  cases return_step_of hcommit with
  | replays ctx request lineAt receiptId status => exact hknows
  | books ctx request lineAt soLineId status => exact knows_storeReturn hknows hapart
  | repeats ctx soId => exact hknows
  | voids ctx soId => cases other <;> cases memory' <;> exact hknows

theorem return_outline :
    ModedOutline returnProgram Rivals UniqueReceipts Knows (fun _ _ _ => True)
      fun _ _ _ _ _ => True where
  symm := rivals_symm
  start := by
    intro request db _
    cases request <;> trivial
  acquires := fun _ _ _ _ _ hproceed _ hheld => return_acquires hproceed hheld
  proceeds := fun _ _ _ _ _ _ hknows hproceed => return_proceeds hknows hproceed
  commits := fun _ _ _ _ _ _ hunique hknows _ hcommit => return_commits hunique hknows hcommit
  stable := fun _ _ _ _ _ _ _ _ _ _ hknows _ hapart _ hcommit => return_stable hknows hapart hcommit

section Runs

variable {Ticket : Type} [Fintype Ticket] [DecidableEq Ticket]

/-- The transactions after these steps. -/
def returnRun (requests : Ticket → ReturnRequest) (db : Db) (steps : List (Step Ticket)) :
    Service Db Ticket ReturnMemory ReturnAnswer :=
  run (Sessions.serve returnProgram requests) (opened returnProgram requests db) steps

/-- A step that books a receive finds that it fits. -/
def BooksFitting (requests : Ticket → ReturnRequest)
    (service : Service Db Ticket ReturnMemory ReturnAnswer) (step : Step Ticket) : Prop :=
  Clear returnProgram requests MayBook (fun _ _ _ _ _ => True) service step

instance (requests : Ticket → ReturnRequest)
    (service : Service Db Ticket ReturnMemory ReturnAnswer) (step : Step Ticket) :
    Decidable (BooksFitting requests service step) :=
  inferInstanceAs (Decidable (Clear ..))

variable {requests : Ticket → ReturnRequest} {service : Service Db Ticket ReturnMemory ReturnAnswer}

theorem meets_true (stage : Stage ReturnMemory ReturnAnswer) :
    Meets (fun _ => True) stage := by
  cases stage <;> trivial

/-- A commit keeps the returns exactly where it may book. -/
theorem returnsKept_commit {db : Db} (hknows : Knows request memory db) (hkept : ReturnsKept db)
    (hcommit : returnStatement request memory isLocked db = .commit next answer) :
    ReturnsKept next ↔ MayBook request memory db := by
  cases return_step_of hcommit with
  | replays ctx request lineAt receiptId status => exact iff_of_true hkept trivial
  | books ctx request lineAt soLineId status => exact returnsKept_storeReturn hkept
  | repeats ctx soId => exact iff_of_true hkept trivial
  | voids ctx soId => exact iff_of_true (returnsKept_stampVoided hkept hknows) trivial

/-- A statement keeps the returns exactly where what it books fits. -/
theorem returnsKept_serve (step : Step Ticket)
    (hsteady : Steady returnProgram requests Rivals UniqueReceipts Knows service)
    (hkept : ReturnsKept service.world) :
    ReturnsKept (Sessions.serve returnProgram requests service step).world ↔
      BooksFitting requests service step := by
  cases step with
  | crash ticket =>
      apply iff_of_true _ trivial
      rw [Sessions.serve]
      split <;> exact hkept
  | advance ticket =>
      rw [BooksFitting, Clear]
      cases hstage : service.stage ticket with
      | ended answer =>
          rw [serve_ended hstage]
          exact iff_of_true hkept trivial
      | running memory =>
          rw [serve_advance hstage, Meets]
          cases houtcome : returnProgram.statement (requests ticket) memory
              (locked returnProgram requests service ticket) service.world with
          | wait => exact iff_of_true hkept trivial
          | proceed next => exact iff_of_true hkept trivial
          | rollback answer => exact iff_of_true hkept trivial
          | commit next answer =>
              have hbooks := returnsKept_commit (hsteady.known ticket memory hstage) hkept houtcome
              constructor
              · intro hafter
                exact ⟨hbooks.mp hafter, fun other _ => meets_true _⟩
              · intro hclear
                exact hbooks.mpr hclear.1

theorem return_steady {db : Db} (hunique : UniqueReceipts db) (steps : List (Step Ticket)) :
    Steady returnProgram requests Rivals UniqueReceipts Knows
      (returnRun requests db steps) :=
  steady_run return_outline hunique (along_forall clear_always _ steps)

/-! ## What is restocked -/

/-- One for a booking stored under the identifier. -/
def ReturnRequest.restocks (externalId : String) : ReturnRequest → ReturnAnswer → ℤ
  | .receive _ request _, .booked _ => if request.storedUnder = externalId then 1 else 0
  | _, _ => 0

/-- The units a booking puts in the bin. -/
def ReturnRequest.restockedUnits (itemId binId : ℕ) : ReturnRequest → ReturnAnswer → ℤ
  | .receive _ request _, .booked _ =>
      if request.itemId = itemId ∧ request.binId = binId then request.quantity else 0
  | _, _ => 0

/-- Receives that have booked restock once for an identifier, and the stock in a bin has
grown by their units. -/
structure RestockedOnce (requests : Ticket → ReturnRequest) (db : Db)
    (service : Service Db Ticket ReturnMemory ReturnAnswer) : Prop where
  once : ∀ externalId, answeredWorth requests (ReturnRequest.restocks externalId) service ≤ 1
  stock : ∀ itemId binId, onHandAt service.world itemId binId =
    onHandAt db itemId binId +
      answeredWorth requests (ReturnRequest.restockedUnits itemId binId) service

/-- The receipts stored under an identifier. -/
def receiptsUnder (externalId : String) (db : Db) : ℤ :=
  ((db.itemReceipts.rows.map ItemReceipt.externalId).count externalId : ℤ)

theorem receiptsUnder_commit {db : Db} (externalId : String)
    (hcommit : returnStatement request memory isLocked db = .commit next answer) :
    receiptsUnder externalId next =
      receiptsUnder externalId db + request.restocks externalId answer := by
  cases return_step_of hcommit with
  | replays ctx request lineAt receiptId status => exact (add_zero _).symm
  | books ctx request lineAt soLineId status =>
      rw [receiptsUnder, storeReturn_itemReceipts, Table.insert, List.map_append, List.count_append]
      simp [receiptsUnder, ReturnRequest.restocks, returnReceipt, List.count_singleton]
  | repeats | voids => exact (add_zero _).symm

theorem onHandAt_commit {db : Db} (itemId binId : ℕ)
    (hcommit : returnStatement request memory isLocked db = .commit next answer) :
    onHandAt next itemId binId =
      onHandAt db itemId binId + request.restockedUnits itemId binId answer := by
  cases return_step_of hcommit with
  | replays ctx request lineAt receiptId status => exact (add_zero _).symm
  | books ctx request lineAt soLineId status => exact onHandAt_storeReturn ..
  | repeats | voids => exact (add_zero _).symm

/-- A statement that rolls back restocks nothing. -/
theorem rollback_refused {db : Db}
    (hrollback : returnStatement request memory isLocked db = .rollback answer) :
    ∃ error, answer = .refused error := by
  cases return_step_of hrollback with
  | refuses request memory error => exact ⟨error, rfl⟩

theorem restockedOnce_run {db : Db} (hunique : UniqueReceipts db) (steps : List (Step Ticket)) :
    RestockedOnce requests db (returnRun requests db steps) where
  once := by
    intro externalId
    have hrefused : ∀ request memory isLocked db answer,
        returnProgram.statement request memory isLocked db = .rollback answer →
          request.restocks externalId answer = 0 := by
      intro request memory isLocked db answer hrollback
      obtain ⟨error, rfl⟩ := rollback_refused hrollback
      cases request <;> rfl
    have hbalance : receiptsUnder externalId (returnRun requests db steps).world =
        receiptsUnder externalId db +
          answeredWorth requests (ReturnRequest.restocks externalId)
            (returnRun requests db steps) :=
      balance_run_steady return_outline
        (fun _ _ _ _ _ _ _ _ hcommit => receiptsUnder_commit externalId hcommit) hrefused
        hunique steps
    have hstays : UniqueReceipts (returnRun requests db steps).world :=
      (return_steady hunique steps).inv
    have hone : receiptsUnder externalId (returnRun requests db steps).world ≤ 1 := by
      have hcount := List.nodup_iff_count_le_one.mp hstays externalId
      rw [receiptsUnder]
      exact_mod_cast hcount
    have hnonneg : 0 ≤ receiptsUnder externalId db := Int.natCast_nonneg _
    omega
  stock := by
    intro itemId binId
    have hrefused : ∀ request memory isLocked db answer,
        returnProgram.statement request memory isLocked db = .rollback answer →
          request.restockedUnits itemId binId answer = 0 := by
      intro request memory isLocked db answer hrollback
      obtain ⟨error, rfl⟩ := rollback_refused hrollback
      cases request <;> rfl
    let stocked : Db → ℤ := fun state => onHandAt state itemId binId
    have hcommits : ∀ request memory isLocked db next answer, UniqueReceipts db →
        Knows request memory db →
          returnProgram.statement request memory isLocked db = .commit next answer →
            stocked next = stocked db + request.restockedUnits itemId binId answer :=
      fun _ _ _ _ _ _ _ _ hcommit => onHandAt_commit itemId binId hcommit
    exact balance_run_steady return_outline hcommits hrefused hunique steps

/-! ## Received once, and never after a void -/

/-- From returns that are in order, and over any order of statements: the returns stay in
order at every moment and every identifier restocks once exactly if every receive that
books fits its line and its return as it commits. -/
theorem returns_kept_iff {db : Db} (hunique : UniqueReceipts db) (hkept : ReturnsKept db)
    (requests : Ticket → ReturnRequest) (steps : List (Step Ticket)) :
    (∀ front, front <+: steps →
      ReturnsKept (returnRun requests db front).world ∧
        RestockedOnce requests db (returnRun requests db front)) ↔
      Along (Sessions.serve returnProgram requests) (BooksFitting requests)
        (opened returnProgram requests db) steps := by
  have hframe : ∀ service step,
      Steady returnProgram requests Rivals UniqueReceipts Knows service →
        Steady returnProgram requests Rivals UniqueReceipts Knows
          (Sessions.serve returnProgram requests service step) := fun service step hsteady =>
    steady_serve return_outline service step hsteady (clear_always service step)
  have halways := always_iff_along hframe
    (fun service step hsteady hkept => returnsKept_serve step hsteady hkept) steps
    (steady_opened return_outline hunique) hkept
  rw [← halways]
  constructor
  · intro hsafe front hfront
    exact (hsafe front hfront).1
  · intro hsafe front hfront
    exact ⟨hsafe front hfront, restockedOnce_run hunique front⟩

end Runs

/-! ## A return of two units -/

namespace SmallReturn

/-- Two units are expected back on return order 2. -/
def db : Db := SmallReceiving.after [SmallReceiving.expect]

/-- `pat` receives units of the item into the staging bin. -/
def receive (quantity : ℤ) (key : Option String) (externalId : String)
    (hpos : decide (0 < quantity) = true := by exact Eq.refl true)
    (hle : decide (quantity ≤ 1000000) = true := by exact Eq.refl true) : ReturnRequest :=
  .receive (SmallWarehouse.pat 5) ⟨2, 1, quantity, 1, 3, key, externalId,
    SmallWarehouse.positive hpos, SmallWarehouse.inOrder hle⟩ 0

def advance {tickets : ℕ} (ticket : Fin tickets) (count : ℕ) : List (Step (Fin tickets)) :=
  List.replicate count (.advance ticket)

/-- The same receive is sent twice under one key, and the return is voided. -/
def retried : Fin 3 → ReturnRequest
  | 0 => receive 2 (some (SmallWarehouse.uuid 0)) (SmallWarehouse.uuid 1)
  | 1 => receive 2 (some (SmallWarehouse.uuid 0)) (SmallWarehouse.uuid 2)
  | 2 => .void (SmallWarehouse.pat 6) 2

/-- The second receive has looked the key up before the first stores it, and the void comes
when the first has referenced the order. -/
def retriedSteps : List (Step (Fin 3)) :=
  advance 0 6 ++ advance 1 5 ++ advance 2 1 ++ advance 0 4 ++ advance 1 1 ++ advance 2 1

/-- Two receives of both units. -/
def twice : Fin 2 → ReturnRequest
  | 0 => receive 2 none (SmallWarehouse.uuid 1)
  | 1 => receive 2 none (SmallWarehouse.uuid 2)

/-- Each has read the line before the other commits. -/
def twiceSteps : List (Step (Fin 2)) := advance 0 3 ++ advance 1 3 ++ advance 0 7 ++ advance 1 7

/-- A void, and a receive of both units. -/
def voided : Fin 2 → ReturnRequest
  | 0 => .void (SmallWarehouse.pat 6) 2
  | 1 => receive 2 none (SmallWarehouse.uuid 1)

/-- The receive comes when the void has committed. -/
def voidedSteps : List (Step (Fin 2)) := advance 0 3 ++ advance 1 10

end SmallReturn

theorem returns_kept_retried :
    ReturnsKept (returnRun SmallReturn.retried SmallReturn.db SmallReturn.retriedSteps).world ∧
      RestockedOnce SmallReturn.retried SmallReturn.db
        (returnRun SmallReturn.retried SmallReturn.db SmallReturn.retriedSteps) :=
  (returns_kept_iff (by decide) (by decide) SmallReturn.retried SmallReturn.retriedSteps).mpr
    (by decide) SmallReturn.retriedSteps (List.prefix_refl _)

/-- Two receives of both units leave four on a line that expected two, and a receive books
on a return that has been voided. -/
theorem returns_kept_broken :
    UniqueReceipts SmallReturn.db ∧ ReturnsKept SmallReturn.db ∧
      (∃ line ∈ (returnRun SmallReturn.twice SmallReturn.db
          SmallReturn.twiceSteps).world.salesOrderLines.rows,
        line.soId = 2 ∧ line.quantityOrdered = 2 ∧ line.quantityReceived = 4) ∧
      (∃ order ∈ (returnRun SmallReturn.voided SmallReturn.db
          SmallReturn.voidedSteps).world.salesOrders.rows,
        order.soId = 2 ∧ order.voidedAt.isSome ∧
          referenced (returnRun SmallReturn.voided SmallReturn.db
            SmallReturn.voidedSteps).world 2) ∧
      ¬ ReturnsKept (returnRun SmallReturn.twice SmallReturn.db SmallReturn.twiceSteps).world ∧
      ¬ ReturnsKept (returnRun SmallReturn.voided SmallReturn.db
        SmallReturn.voidedSteps).world := by
  decide

end SentryWms.SalesOrders

import SentryWms.Relational.Sessions
import SentryWms.SalesOrders.Returns
import SentryWms.System

/-!
# Receipts and voids of returns statement by statement

Receives and voids as transactions beside each other.  A receive reads the return, its
line and the receipts without a lock, and only its writes wait for others: the receipt
for one of the same key and, through its foreign key, for a void of the order; the stock
and the line for a receive of the same place and line.  A void locks the order before it
checks anything.  What a receive writes is stored when it commits.
-/

namespace SentryWms.SalesOrders

open Relational Sessions Inventory Receiving

/-! ## The transactions -/

/-- A request with its caller.  A lookup by item without an order may return any line of
the item: a receive comes with the place of the one it reads. -/
inductive ReturnRequest
  | receive (ctx : RequestContext) (request : ReceiveRmaRequest) (lineAt : ℕ)
  | void (ctx : RequestContext) (soId : ℕ)

/-- `idempotency_key or str(uuid.uuid4())`. -/
def ReceiveRmaRequest.storedUnder (request : ReceiveRmaRequest) : String :=
  request.key?.getD request.externalId

/-- Where a receive is, past its first statement. -/
inductive ReceivePoint
  | found
  | lined (line : SalesOrderLine)
  | replaying (receiptId : ℕ)
  | guarded (soLineId : ℕ)
  | inserting (soLineId : ℕ)
  | referencing (soLineId : ℕ)
  | inserted (soLineId : ℕ)
  | stocked (soLineId : ℕ)
  | advanced (soLineId : ℕ)
  | judged (soLineId : ℕ) (status : SalesOrderStatus)

inductive ReturnMemory
  | start
  | receiving (point : ReceivePoint)
  | voiding (order : SalesOrder)
  | cleared

/-- A receive references its order and a void locks it; the other locks are held by
receives alone. -/
inductive ReturnLock
  | receipt (externalId : String)
  | reference (soId : ℕ)
  | order (soId : ℕ)
  | stock (itemId binId : ℕ)
  | line (soLineId : ℕ)
  deriving DecidableEq, Repr

/-- The locks that keep a lock from being taken: `FOR KEY SHARE` conflicts with `FOR
UPDATE` and not with itself. -/
def ReturnLock.rivals : ReturnLock → List ReturnLock
  | .reference soId => [.order soId]
  | .order soId => [.order soId, .reference soId]
  | lock => [lock]

/-- Another transaction is in the way of the lock. -/
def ReturnLock.taken (lock : ReturnLock) (isLocked : ReturnLock → Bool) : Bool :=
  lock.rivals.any isLocked

inductive ReturnAnswer
  | booked (received : ReceivedReturn)
  | replayed (receiptId : ℕ) (status : Option SalesOrderStatus)
  | voided (already : Bool)
  | refused (error : ServiceError)
  deriving DecidableEq, Repr

abbrev ReturnOutcome := Outcome Db ReturnMemory ReturnAnswer

/-- How many of the receipt, its reference, the stock and the line have been written. -/
def ReceivePoint.writes : ReceivePoint → ℕ
  | .referencing _ => 1
  | .inserted _ => 2
  | .stocked _ => 3
  | .advanced _ => 4
  | .judged _ _ => 4
  | _ => 0

/-- The line that has been written. -/
def ReceivePoint.line? : ReceivePoint → Option ℕ
  | .advanced soLineId => some soLineId
  | .judged soLineId _ => some soLineId
  | _ => none

/-- The locks of a receive. -/
def ReceivePoint.holds (request : ReceiveRmaRequest) (point : ReceivePoint) :
    ReturnLock → Bool
  | .receipt externalId => 1 ≤ point.writes ∧ externalId = request.storedUnder
  | .reference soId => 2 ≤ point.writes ∧ soId = request.rmaSoId
  | .stock itemId binId => 3 ≤ point.writes ∧ itemId = request.itemId ∧ binId = request.binId
  | .line soLineId => point.line? = some soLineId
  | .order _ => false

/-- The locks a transaction holds. -/
def returnHolds : ReturnRequest → ReturnMemory → ReturnLock → Bool
  | .receive _ request _, .receiving point, lock => point.holds request lock
  | .void _ soId, .voiding _, .order locked => soId = locked
  | .void _ soId, .cleared, .order locked => soId = locked
  | _, _, _ => false

/-! ## Receiving -/

def findReturn (request : ReceiveRmaRequest) (db : Db) : ReturnOutcome :=
  match (db.salesOrders.find? request.rmaSoId).filter fun order =>
      order.orderType = .return with
  | none => .rollback (.refused (.valueError
      s!"RMA {request.rmaSoId} not found or not a return SO"))
  | some _ => .proceed (.receiving .found)

/-- The lines of the return for the item. -/
def returnLines (db : Db) (soId itemId : ℕ) : List SalesOrderLine :=
  db.salesOrderLines.select fun line => line.soId = soId ∧ line.itemId = itemId

/-- One of them, where there is one. -/
def anyReturnLine? (db : Db) (soId itemId lineAt : ℕ) : Option SalesOrderLine :=
  (returnLines db soId itemId)[lineAt % (returnLines db soId itemId).length]?

def readReturnLine (request : ReceiveRmaRequest) (lineAt : ℕ) (db : Db) : ReturnOutcome :=
  match anyReturnLine? db request.rmaSoId request.itemId lineAt with
  | none => .rollback (.refused (.valueError
      s!"item {request.itemId} is not on RMA {request.rmaSoId}"))
  | some line => .proceed (.receiving (.lined line))

/-- The lookup of the key, then the guard on what was read of the line. -/
def readPrior (request : ReceiveRmaRequest) (line : SalesOrderLine) (db : Db) : ReturnOutcome :=
  match db.itemReceipts.rows.find? fun receipt =>
      some receipt.externalId = request.key? with
  | some prior => .proceed (.receiving (.replaying prior.receiptId))
  | none =>
      let remaining := line.quantityOrdered - line.quantityReceived
      if request.quantity ≤ remaining then .proceed (.receiving (.guarded line.soLineId))
      else .rollback (.refused (.valueError
        s!"cannot receive {request.quantity} of item {request.itemId}: only {remaining} of {line.quantityOrdered} remain on RMA {request.rmaSoId}"))

def readBin (request : ReceiveRmaRequest) (soLineId : ℕ) (db : Db) : ReturnOutcome :=
  match db.bins.find? request.binId with
  | none => .rollback (.refused (.valueError s!"bin {request.binId} not found"))
  | some bin =>
      if bin.warehouseId = request.warehouseId then
        .proceed (.receiving (.inserting soLineId))
      else .rollback (.refused (.valueError
        s!"bin {request.binId} belongs to warehouse {bin.warehouseId}, not {request.warehouseId}"))

/-- A receipt is stored under the identifier. -/
def storedReceipt (db : Db) (externalId : String) : Bool :=
  db.itemReceipts.rows.any fun receipt => receipt.externalId = externalId

/-- `INSERT INTO item_receipts`: the unique index waits for an open insert of the same
identifier and refuses one that is stored. -/
def insertReturnReceipt (request : ReceiveRmaRequest) (soLineId : ℕ)
    (isLocked : ReturnLock → Bool) (db : Db) : ReturnOutcome :=
  if (ReturnLock.receipt request.storedUnder).taken isLocked then .wait
  else if storedReceipt db request.storedUnder then
    .rollback (.refused (.integrityError "item_receipts_external_id_key"))
  else .proceed (.receiving (.referencing soLineId))

/-- The receipt of a line. -/
def returnReceipt (request : ReceiveRmaRequest) (soLineId receiptId : ℕ) : ItemReceipt where
  receiptId := receiptId
  soId := some request.rmaSoId
  soLineId := some soLineId
  itemId := request.itemId
  quantityReceived := request.quantity
  binId := request.binId
  warehouseId := request.warehouseId
  externalId := request.storedUnder

/-- The status of a return whose lines are these. -/
def receivedStatus (db : Db) (soId : ℕ) : SalesOrderStatus :=
  if (linesOf db soId).any fun line => line.quantityReceived < line.quantityOrdered
  then rmaStatusPartiallyReceived else rmaStatusReceived

theorem receivedUnits_key (request : ReceiveRmaRequest) (line : SalesOrderLine) :
    (receiveUnits request.quantity line).soLineId = line.soLineId :=
  rfl

/-- What a receive leaves when it commits. -/
def storeReturn (ctx : RequestContext) (request : ReceiveRmaRequest) (soLineId : ℕ)
    (status : SalesOrderStatus) (db : Db) : Db :=
  emitEvent ctx .returnReceived db.itemReceipts.nextKey request.warehouseId
    (setOrderStatus request.rmaSoId status
      (updateLine (some soLineId) (receiveUnits request.quantity)
        (addInventory ctx.now request.itemId request.binId request.warehouseId request.quantity none
          { db with
            itemReceipts := db.itemReceipts.insert (returnReceipt request soLineId) })
        (receivedUnits_key request)))

/-- The statements of `receive_rma` after its first. -/
def receiveStatement (ctx : RequestContext) (request : ReceiveRmaRequest) (lineAt : ℕ)
    (point : ReceivePoint) (isLocked : ReturnLock → Bool) (db : Db) : ReturnOutcome :=
  match point with
  | .found => readReturnLine request lineAt db
  | .lined line => readPrior request line db
  | .replaying receiptId =>
      .commit db (.replayed receiptId
        ((db.salesOrders.find? request.rmaSoId).map SalesOrder.status))
  | .guarded soLineId => readBin request soLineId db
  | .inserting soLineId => insertReturnReceipt request soLineId isLocked db
  | .referencing soLineId =>
      if (ReturnLock.reference request.rmaSoId).taken isLocked then .wait
      else .proceed (.receiving (.inserted soLineId))
  | .inserted soLineId =>
      if (ReturnLock.stock request.itemId request.binId).taken isLocked then .wait
      else .proceed (.receiving (.stocked soLineId))
  | .stocked soLineId =>
      if (ReturnLock.line soLineId).taken isLocked then .wait
      else .proceed (.receiving (.advanced soLineId))
  | .advanced soLineId =>
      -- the count sees the line as this transaction has written it
      .proceed (.receiving (.judged soLineId (receivedStatus
        (updateLine (some soLineId) (receiveUnits request.quantity) db
          (receivedUnits_key request)) request.rmaSoId)))
  | .judged soLineId status =>
      .commit (storeReturn ctx request soLineId status db)
        (.booked
          { receiptId := db.itemReceipts.nextKey
            status := status
            replayed := false })

/-! ## Voiding -/

/-- The guards on the locked row. -/
def checkVoid (order : SalesOrder) : Except ServiceError Unit := do
  require (order.orderType = .return)
    (.returnVoidNotAllowed "only return orders (RMAs) can be voided here" "not_a_return")
  require (order.status = .soOpen)
    (.returnVoidNotAllowed
      "only an un-received (OPEN) return can be voided; this one has advanced past OPEN"
      "not_open")

/-- `SELECT ... FOR UPDATE`: any other hold on the row keeps it waiting. -/
def lockReturn (soId : ℕ) (isLocked : ReturnLock → Bool) (db : Db) : ReturnOutcome :=
  match db.salesOrders.find? soId with
  | none => .rollback (.refused (.returnVoidNotAllowed "sales order not found" "not_found"))
  | some order =>
      if (ReturnLock.order soId).taken isLocked then .wait
      else if order.voidedAt.isSome then .commit db (.voided true)
      else
        match checkVoid order with
        | .error error => .rollback (.refused error)
        | .ok () => .proceed (.voiding order)

/-- A receipt references the order. -/
def referenced (db : Db) (soId : ℕ) : Bool :=
  db.itemReceipts.rows.any fun receipt => receipt.soId = some soId

def readReceipts (soId : ℕ) (order : SalesOrder) (db : Db) : ReturnOutcome :=
  if referenced db soId then
    .rollback (.refused (.returnVoidNotAllowed
      "this return has received goods; voiding would strand the received inventory"
      "has_receipts"))
  else if order.refundSoId = none then .proceed .cleared
  else .rollback (.refused (.returnVoidNotAllowed
    "this return is linked to a refund; resolve the refund first" "has_refund"))

/-- The return with `voided_at`. -/
def stampVoided (ctx : RequestContext) (soId : ℕ) (db : Db) : Db :=
  { db with
    salesOrders := db.salesOrders.updateKey soId fun order =>
      { order with voidedAt := some ctx.now } }

/-! ## The program -/

/-- The statement of a transaction; it is never at a point of the other kind. -/
def returnStatement : ReturnRequest → ReturnMemory → (ReturnLock → Bool) → Db → ReturnOutcome
  | .receive _ request _, .start, _, db => findReturn request db
  | .receive ctx request lineAt, .receiving point, isLocked, db =>
      receiveStatement ctx request lineAt point isLocked db
  | .void _ soId, .start, isLocked, db => lockReturn soId isLocked db
  | .void _ soId, .voiding order, _, db => readReceipts soId order db
  | .void ctx soId, .cleared, _, db => .commit (stampVoided ctx soId db) (.voided false)
  | _, _, _, _ => .wait

/-- `receive_rma` and `void_return_order`, statement by statement. -/
def returnProgram : Program Db ReturnRequest ReturnMemory ReturnLock ReturnAnswer where
  start := fun _ => .start
  holds := returnHolds
  statement := returnStatement
  start_holds := by
    intro request lock
    cases request <;> rfl

/-! ## What a statement can do -/

/-- The outcomes of a statement. -/
inductive ReturnStep (isLocked : ReturnLock → Bool) (db : Db) :
    ReturnRequest → ReturnMemory → ReturnOutcome → Prop
  | waits (request : ReturnRequest) (memory : ReturnMemory) :
      ReturnStep isLocked db request memory .wait
  | refuses (request : ReturnRequest) (memory : ReturnMemory) (error : ServiceError) :
      ReturnStep isLocked db request memory (.rollback (.refused error))
  | finds (ctx : RequestContext) (request : ReceiveRmaRequest) (lineAt : ℕ) :
      ReturnStep isLocked db (.receive ctx request lineAt) .start (.proceed (.receiving .found))
  | reads (ctx : RequestContext) (request : ReceiveRmaRequest) (lineAt : ℕ)
      (point next : ReceivePoint) (hwrites : next.writes = 0) (hline : next.line? = none) :
      ReturnStep isLocked db (.receive ctx request lineAt) (.receiving point)
        (.proceed (.receiving next))
  | inserts (ctx : RequestContext) (request : ReceiveRmaRequest) (lineAt soLineId : ℕ)
      (hfree : (ReturnLock.receipt request.storedUnder).taken isLocked = false)
      (hnew : storedReceipt db request.storedUnder = false) :
      ReturnStep isLocked db (.receive ctx request lineAt) (.receiving (.inserting soLineId))
        (.proceed (.receiving (.referencing soLineId)))
  | references (ctx : RequestContext) (request : ReceiveRmaRequest) (lineAt soLineId : ℕ)
      (hfree : (ReturnLock.reference request.rmaSoId).taken isLocked = false) :
      ReturnStep isLocked db (.receive ctx request lineAt) (.receiving (.referencing soLineId))
        (.proceed (.receiving (.inserted soLineId)))
  | stocks (ctx : RequestContext) (request : ReceiveRmaRequest) (lineAt soLineId : ℕ)
      (hfree : (ReturnLock.stock request.itemId request.binId).taken isLocked = false) :
      ReturnStep isLocked db (.receive ctx request lineAt) (.receiving (.inserted soLineId))
        (.proceed (.receiving (.stocked soLineId)))
  | advances (ctx : RequestContext) (request : ReceiveRmaRequest) (lineAt soLineId : ℕ)
      (hfree : (ReturnLock.line soLineId).taken isLocked = false) :
      ReturnStep isLocked db (.receive ctx request lineAt) (.receiving (.stocked soLineId))
        (.proceed (.receiving (.advanced soLineId)))
  | counts (ctx : RequestContext) (request : ReceiveRmaRequest) (lineAt soLineId : ℕ)
      (status : SalesOrderStatus) :
      ReturnStep isLocked db (.receive ctx request lineAt) (.receiving (.advanced soLineId))
        (.proceed (.receiving (.judged soLineId status)))
  | replays (ctx : RequestContext) (request : ReceiveRmaRequest) (lineAt receiptId : ℕ)
      (status : Option SalesOrderStatus) :
      ReturnStep isLocked db (.receive ctx request lineAt) (.receiving (.replaying receiptId))
        (.commit db (.replayed receiptId status))
  | books (ctx : RequestContext) (request : ReceiveRmaRequest) (lineAt soLineId : ℕ)
      (status : SalesOrderStatus) :
      ReturnStep isLocked db (.receive ctx request lineAt) (.receiving (.judged soLineId status))
        (.commit (storeReturn ctx request soLineId status db)
          (.booked ⟨db.itemReceipts.nextKey, status, false⟩))
  | repeats (ctx : RequestContext) (soId : ℕ) :
      ReturnStep isLocked db (.void ctx soId) .start (.commit db (.voided true))
  | locks (ctx : RequestContext) (soId : ℕ) (order : SalesOrder)
      (hfree : (ReturnLock.order soId).taken isLocked = false) :
      ReturnStep isLocked db (.void ctx soId) .start (.proceed (.voiding order))
  | clears (ctx : RequestContext) (soId : ℕ) (order : SalesOrder)
      (hnone : referenced db soId = false) :
      ReturnStep isLocked db (.void ctx soId) (.voiding order) (.proceed .cleared)
  | voids (ctx : RequestContext) (soId : ℕ) :
      ReturnStep isLocked db (.void ctx soId) .cleared
        (.commit (stampVoided ctx soId db) (.voided false))

section Statements

variable {isLocked : ReturnLock → Bool} {db : Db}

theorem receive_step (ctx : RequestContext) (request : ReceiveRmaRequest) (lineAt : ℕ)
    (point : ReceivePoint) :
    ReturnStep isLocked db (.receive ctx request lineAt) (.receiving point)
      (receiveStatement ctx request lineAt point isLocked db) := by
  cases point with
  | found =>
      rw [receiveStatement, readReturnLine]
      split
      · exact .refuses ..
      · exact .reads _ _ _ _ _ rfl rfl
  | lined line =>
      rw [receiveStatement, readPrior]
      split
      · exact .reads _ _ _ _ _ rfl rfl
      · dsimp only
        split
        · exact .reads _ _ _ _ _ rfl rfl
        · exact .refuses ..
  | replaying receiptId => exact .replays ..
  | guarded soLineId =>
      rw [receiveStatement, readBin]
      split
      · exact .refuses ..
      · split
        · exact .reads _ _ _ _ _ rfl rfl
        · exact .refuses ..
  | inserting soLineId =>
      rw [receiveStatement, insertReturnReceipt]
      split
      · exact .waits ..
      · rename_i hfree
        split
        · exact .refuses ..
        · rename_i hnew
          exact .inserts _ _ _ _ (by simpa using hfree) (by simpa using hnew)
  | referencing soLineId =>
      rw [receiveStatement]
      split
      · exact .waits ..
      · rename_i hfree
        exact .references _ _ _ _ (by simpa using hfree)
  | inserted soLineId =>
      rw [receiveStatement]
      split
      · exact .waits ..
      · rename_i hfree
        exact .stocks _ _ _ _ (by simpa using hfree)
  | stocked soLineId =>
      rw [receiveStatement]
      split
      · exact .waits ..
      · rename_i hfree
        exact .advances _ _ _ _ (by simpa using hfree)
  | advanced soLineId => exact .counts ..
  | judged soLineId status => exact .books ..

theorem return_step (request : ReturnRequest) (memory : ReturnMemory) :
    ReturnStep isLocked db request memory (returnStatement request memory isLocked db) := by
  cases request with
  | receive ctx request lineAt =>
      cases memory with
      | start =>
          rw [returnStatement, findReturn]
          split
          · exact .refuses ..
          · exact .finds ..
      | receiving point => exact receive_step ctx request lineAt point
      | voiding | cleared => exact .waits ..
  | void ctx soId =>
      cases memory with
      | start =>
          rw [returnStatement, lockReturn]
          split
          · exact .refuses ..
          · split
            · exact .waits ..
            · rename_i hfree
              split
              · exact .repeats ..
              · split
                · exact .refuses ..
                · exact .locks _ _ _ (by simpa using hfree)
      | receiving point => exact .waits ..
      | voiding order =>
          rw [returnStatement, readReceipts]
          split
          · exact .refuses ..
          · rename_i hnone
            split
            · exact .clears _ _ _ (by simpa using hnone)
            · exact .refuses ..
      | cleared => exact .voids ..

theorem return_step_of {request : ReturnRequest} {memory : ReturnMemory}
    {outcome : ReturnOutcome}
    (houtcome : returnStatement request memory isLocked db = outcome) :
    ReturnStep isLocked db request memory outcome :=
  houtcome ▸ return_step request memory

end Statements

end SentryWms.SalesOrders

import SentryWms.Relational.Overlay
import SentryWms.Relational.Sessions
import SentryWms.TransferOrders.Tables

/-!
# Transfer-order requests statement by statement

Picks, submissions, approvals and short-closes as transactions beside each other.  No
picker locks a line before it is written: the update that credits a pick carries the cap
in its `WHERE` clause, and the one that credits an approval is checked by the constraints
of the table.  What an update writes is computed from the row it has locked, and stored
when the transaction commits.
-/

namespace SentryWms.TransferOrders

open Relational Sessions Inventory Picking

/-! ## Rows of a line -/

/-- The `WHERE` clause of `update_transfer_order_line_picked`. -/
def pickMatches (delta : ℤ) (line : TransferOrderLine) : Bool :=
  line.pickedQty + delta ≤ line.committedQty ∧ pickable line

/-- Its `SET` clause. -/
def pickLine (delta : ℤ) (line : TransferOrderLine) : TransferOrderLine :=
  { line with
    pickedQty := line.pickedQty + delta
    status :=
      if line.pickedQty + delta = line.committedQty then .toLinePicked
      else .toLinePartiallyPicked }

/-- The lines with a transaction's own versions over them. -/
def storeLines (written : List TransferOrderLine) (db : Db) : Db :=
  { db with transferOrderLines := db.transferOrderLines.overlay written }

/-! ## The transactions -/

/-- A request with its caller. -/
inductive LineRequest
  | confirmPick (ctx : RequestContext) (request : ConfirmPickRequest)
  | submitPicks (ctx : RequestContext) (toId : ℕ)
  | approve (ctx : RequestContext) (toId toApprovalId : ℕ)
  | shortClose (toId toLineId : ℕ)

/-- A pick of a transfer task. -/
structure LinePick where
  pickTaskId : ℕ
  toId : ℕ
  toLineId : ℕ
  delta : ℤ
  deriving DecidableEq, Repr

/-- What a transaction remembers from its last statement. -/
inductive LineMemory
  | start
  | checked (pick : LinePick)
  | recorded (pick : LinePick)
  | credited (pick : LinePick) (version : TransferOrderLine)
  | promoted (pick : LinePick) (version : TransferOrderLine) (promotes : Bool)
  | submitting (ctx : RequestContext) (toId : ℕ)
  | submitted (ctx : RequestContext) (toId : ℕ) (snapshot : List (ℕ × ℕ × ℤ))
  | approving (ctx : RequestContext) (approval : TransferOrderApproval)
  | moving (ctx : RequestContext) (approval : TransferOrderApproval) (header : TransferOrder)
      (entries : List (ℕ × ℕ × ℤ)) (written : List TransferOrderLine)
  | closing (line : TransferOrderLine) (sourceWarehouseId : ℕ)

inductive LineLock
  | task (pickTaskId : ℕ)
  | line (toLineId : ℕ)
  | header (toId : ℕ)
  | approval (toApprovalId : ℕ)
  deriving DecidableEq, Repr

inductive LineAnswer
  | picked (toLineId : ℕ) (delta : ℤ)
  | served
  | refused (error : ServiceError)
  deriving DecidableEq, Repr

/-- The locks a transaction holds. -/
def LineMemory.holds : LineMemory → LineLock → Bool
  | .recorded pick, .task pickTaskId => pick.pickTaskId = pickTaskId
  | .credited pick _, .task pickTaskId => pick.pickTaskId = pickTaskId
  | .credited pick _, .line toLineId => pick.toLineId = toLineId
  | .promoted pick _ _, .task pickTaskId => pick.pickTaskId = pickTaskId
  | .promoted pick _ _, .line toLineId => pick.toLineId = toLineId
  | .promoted pick _ promotes, .header toId => promotes && decide (pick.toId = toId)
  | .submitting _ toId, .header locked => toId = locked
  | .submitted _ toId _, .header locked => toId = locked
  | .approving _ approval, .approval toApprovalId => approval.toApprovalId = toApprovalId
  | .moving _ approval _ _ _, .approval toApprovalId =>
      approval.toApprovalId = toApprovalId
  | .moving _ _ header _ _, .header toId => header.toId = toId
  | .moving _ _ _ _ written, .line toLineId =>
      written.any fun version => version.toLineId = toLineId
  | .closing line _, .line toLineId => line.toLineId = toLineId
  | _, _ => false

abbrev LineOutcome := Outcome Db LineMemory LineAnswer

/-- The reads of `confirm_pick`.  The pick of a sales order writes to no transfer table
and is taken in one go. -/
def startPick (ctx : RequestContext) (db : Db) (request : ConfirmPickRequest) : LineOutcome :=
  match checkConfirm db request with
  | .error error => .rollback (.refused error)
  | .ok (task, _) =>
      match task.target with
      | .transferOrder toId toLineId =>
          .proceed (.checked ⟨task.pickTaskId, toId, toLineId, request.quantityPicked⟩)
      | .salesOrder _ _ =>
          match confirmPick ctx db request with
          | .error error => .rollback (.refused error)
          | .ok (db', _) => .commit db' .served

/-- `UPDATE transfer_order_lines ... RETURNING`: no row matches, or the one that does is
locked. -/
def creditPick (pick : LinePick) (isLocked : LineLock → Bool) (db : Db) : LineOutcome :=
  match (db.transferOrderLines.find? pick.toLineId).filter (pickMatches pick.delta) with
  | none => .rollback (.refused (.overPickAttempt pick.toLineId pick.delta))
  | some line =>
      if isLocked (.line pick.toLineId) then .wait
      else .proceed (.credited pick (pickLine pick.delta line))

/-- `maybe_promote_header_to_partially_picked`. -/
def promotePick (pick : LinePick) (version : TransferOrderLine) (isLocked : LineLock → Bool)
    (db : Db) : LineOutcome :=
  if (db.transferOrders.find? pick.toId).any fun header => header.status = .toOpen then
    if isLocked (.header pick.toId) then .wait else .proceed (.promoted pick version true)
  else .proceed (.promoted pick version false)

/-- What a pick stores. -/
def storePick (pick : LinePick) (version : TransferOrderLine) (promotes : Bool) (db : Db) : Db :=
  let stored := storeLines [version] (recordPick pick.pickTaskId .taskPicked pick.delta db)
  if promotes then maybePromoteHeaderToPartiallyPicked stored pick.toId else stored

/-- The locking read of `submit_picks`. -/
def startSubmit (ctx : RequestContext) (toId : ℕ) (isLocked : LineLock → Bool) (db : Db) :
    LineOutcome :=
  match db.transferOrders.find? toId with
  | none => .rollback (.refused (.httpError 404 "Transfer order not found"))
  | some header =>
      if isLocked (.header toId) then .wait
      else if header.status ≠ .toPartiallyPicked ∧ header.status ≠ .toAwaitingApproval then
        .rollback (.refused (invalidStatus "invalid_status_for_submit" header))
      else .proceed (.submitting ctx toId)

/-- The read of the lines. -/
def readSubmit (ctx : RequestContext) (toId : ℕ) (db : Db) : LineOutcome :=
  let lines := unsubmittedLines db toId
  if lines.isEmpty then
    .rollback (.refused (.jsonError 422 "nothing_picked"
      [("detail", some
        "No new picks since the last submit. Pick more lines before submitting.")]))
  else .proceed (.submitted ctx toId (lines.map fun line =>
    (line.toLineId, line.itemId, line.pickedQty - line.approvedQty)))

/-- The count of the open lines, the inserted approval and the header's status. -/
def storeSubmit (ctx : RequestContext) (toId : ℕ) (snapshot : List (ℕ × ℕ × ℤ)) (db : Db) : Db :=
  { db with
    transferOrderApprovals := db.transferOrderApprovals.insert fun toApprovalId =>
      { toApprovalId := toApprovalId
        toId := toId
        submittedBy := ctx.username
        linesSnapshot := snapshot }
    transferOrders := db.transferOrders.updateKey toId fun row =>
      { row with status := submittedStatus db toId } }

/-- The locking read of the approval, and what is checked of it. -/
def startApprove (ctx : RequestContext) (toId toApprovalId : ℕ) (isLocked : LineLock → Bool)
    (db : Db) : LineOutcome :=
  match (db.transferOrderApprovals.find? toApprovalId).filter fun approval =>
      approval.toId = toId with
  | none => .rollback (.refused (.httpError 404 "Approval row not found"))
  | some approval =>
      if isLocked (.approval toApprovalId) then .wait
      else if approval.status ≠ .approvalPending then
        .rollback (.refused (approvalNotPending true approval))
      else if selfApprovalBlocked db ∧ approval.submittedBy = ctx.username then
        .rollback (.refused (selfApproval approval))
      else .proceed (.approving ctx approval)

/-- The locking read of the header. -/
def readApprove (ctx : RequestContext) (approval : TransferOrderApproval)
    (isLocked : LineLock → Bool) (db : Db) : LineOutcome :=
  match db.transferOrders.find? approval.toId with
  | none => .rollback (.refused (.httpError 404 "Transfer order not found"))
  | some header =>
      if isLocked (.header header.toId) then .wait
      else if approval.linesSnapshot = [] then
        .rollback (.refused emptySnapshot)
      else .proceed (.moving ctx approval header (snapshotEntries approval) [])

/-- `UPDATE transfer_order_lines` for one entry of the snapshot, on the committed row or
the transaction's own version of it. -/
def creditEntry (ctx : RequestContext) (approval : TransferOrderApproval)
    (header : TransferOrder) (entry : ℕ × ℕ × ℤ) (rest : List (ℕ × ℕ × ℤ))
    (written : List TransferOrderLine) (isLocked : LineLock → Bool) (db : Db) : LineOutcome :=
  if entry.2.2 ≤ 0 then .proceed (.moving ctx approval header rest written)
  else
    match (db.transferOrderLines.overlay written).find? entry.1 with
    | none => .proceed (.moving ctx approval header rest written)
    | some line =>
        if isLocked (.line entry.1) then .wait
        else if line.approvedQty + entry.2.2 ≤ line.pickedQty then
          .proceed (.moving ctx approval header rest (addApproved entry.2.2 line :: written))
        else .rollback (.refused (.integrityError "transfer_order_lines_check"))

/-- The units of the entries, out of the source and into the destination. -/
def moveUnits (now : ℕ) (header : TransferOrder) :
    List (ℕ × ℕ × ℤ) → Db → Except ServiceError Db
  | [], db => pure db
  | entry :: rest, db =>
      if entry.2.2 ≤ 0 then moveUnits now header rest db
      else do
        let taken ← decrementSourceInventory now entry.2.1 header.sourceWarehouseId entry.2.2 db
        let landed ← creditDestinationInventory now entry.2.1 header.destinationWarehouseId
          entry.2.2 taken
        moveUnits now header rest landed

/-- The stock, the answer to the approval and the closure of the order. -/
def storeApprove (ctx : RequestContext) (approval : TransferOrderApproval)
    (header : TransferOrder) (written : List TransferOrderLine) (db : Db) : LineOutcome :=
  match orApprovalFailed
      (moveUnits ctx.now header (snapshotEntries approval) (storeLines written db)) with
  | .error error => .rollback (.refused error)
  | .ok moved => .commit (finishApproval ctx header approval moved) .served

/-- The locking read of `short_close_to_line`, and its check. -/
def startShortClose (toId toLineId : ℕ) (isLocked : LineLock → Bool) (db : Db) : LineOutcome :=
  match (db.transferOrderLines.find? toLineId).filter fun line => line.toId = toId,
      db.transferOrders.find? toId with
  | some line, some header =>
      if isLocked (.line toLineId) then .wait
      else
        match validateLineTransition "invalid_line_status_for_short_close" line.status
            .toLineShortClosed with
        | .error error => .rollback (.refused error)
        | .ok _ => .proceed (.closing line header.sourceWarehouseId)
  | _, _ => .rollback (.refused (.httpError 404 "Transfer order line not found"))

/-- The released units and the status. -/
def storeShortClose (line : TransferOrderLine) (sourceWarehouseId : ℕ) (db : Db) : Db :=
  let released := releaseLine sourceWarehouseId db line
  { released with
    transferOrderLines := released.transferOrderLines.updateKey line.toLineId
      fun row => { row with status := .toLineShortClosed } }

def startLine (isLocked : LineLock → Bool) (db : Db) : LineRequest → LineOutcome
  | .confirmPick ctx request => startPick ctx db request
  | .submitPicks ctx toId => startSubmit ctx toId isLocked db
  | .approve ctx toId toApprovalId => startApprove ctx toId toApprovalId isLocked db
  | .shortClose toId toLineId => startShortClose toId toLineId isLocked db

/-- The next statement of a transaction. -/
def lineStatement (request : LineRequest) (memory : LineMemory) (isLocked : LineLock → Bool)
    (db : Db) : LineOutcome :=
  match memory with
  | .start => startLine isLocked db request
  | .checked pick =>
      if isLocked (.task pick.pickTaskId) then .wait else .proceed (.recorded pick)
  | .recorded pick => creditPick pick isLocked db
  | .credited pick version => promotePick pick version isLocked db
  | .promoted pick version promotes =>
      .commit (storePick pick version promotes db) (.picked pick.toLineId pick.delta)
  | .submitting ctx toId => readSubmit ctx toId db
  | .submitted ctx toId snapshot => .commit (storeSubmit ctx toId snapshot db) .served
  | .approving ctx approval => readApprove ctx approval isLocked db
  | .moving ctx approval header [] written => storeApprove ctx approval header written db
  | .moving ctx approval header (entry :: rest) written =>
      creditEntry ctx approval header entry rest written isLocked db
  | .closing line sourceWarehouseId =>
      .commit (storeShortClose line sourceWarehouseId db) .served

def lineProgram : Program Db LineRequest LineMemory LineLock LineAnswer where
  start := fun _ => .start
  holds := fun _ memory => memory.holds
  statement := lineStatement
  start_holds := fun _ lock => by cases lock <;> rfl

variable {now itemId warehouseId : ℕ} {qty : ℤ} {confirm : ConfirmPickRequest} {task : PickTask}

/-! ## Frames -/

section Frames

variable {db db' : Db}

theorem sameTransfers_decrement
    (htaken : decrementSourceInventory now itemId warehouseId qty db = .ok db') :
    SameTransfers db db' := by
  simp only [decrementSourceInventory, bind_eq_ok, require_eq_ok, pure_eq_ok] at htaken
  obtain ⟨-, -, rfl⟩ := htaken
  exact (consumeAll_frame now db _).1

theorem sameTransfers_credit
    (hlanded : creditDestinationInventory now itemId warehouseId qty db = .ok db') :
    SameTransfers db db' := by
  simp only [creditDestinationInventory, bind_eq_ok, orThrow_eq_ok, pure_eq_ok] at hlanded
  obtain ⟨bin, -, rfl⟩ := hlanded
  exact sameTransfers_addInventory ..

/-- Moving units writes to no transfer table. -/
theorem sameTransfers_moveUnits {header : TransferOrder} {entries : List (ℕ × ℕ × ℤ)}
    (hmoved : moveUnits now header entries db = .ok db') : SameTransfers db db' := by
  induction entries generalizing db with
  | nil =>
      obtain rfl := pure_eq_ok.mp hmoved
      exact SameTransfers.refl db
  | cons entry rest ih =>
      rw [moveUnits] at hmoved
      split at hmoved
      · exact ih hmoved
      · simp only [bind_eq_ok] at hmoved
        obtain ⟨taken, htaken, landed, hlanded, hrest⟩ := hmoved
        exact ((sameTransfers_decrement htaken).trans (sameTransfers_credit hlanded)).trans
          (ih hrest)

theorem finishApproval_lines (ctx : RequestContext) (header : TransferOrder)
    (approval : TransferOrderApproval) (moved : Db) :
    (finishApproval ctx header approval moved).transferOrderLines =
      moved.transferOrderLines := by
  have hsettled : ∀ closes : Bool,
      (if closes then setTransferStatus header.toId .toClosed (answerApproval
          approval.toApprovalId .approvalApproved (some ctx.username) moved)
        else answerApproval approval.toApprovalId .approvalApproved (some ctx.username)
          moved).transferOrderLines = moved.transferOrderLines := by
    intro closes
    cases closes <;> rfl
  rw [finishApproval]
  split
  · rw [(sameTransfers_emitEvent ..).lines]
    exact hsettled _
  · exact hsettled _

theorem storePick_lines (pick : LinePick) (version : TransferOrderLine) (promotes : Bool)
    (db : Db) : (storePick pick version promotes db).transferOrderLines =
      db.transferOrderLines.overlay [version] := by
  cases promotes <;> rfl

end Frames

/-! ## One statement -/

/-- Where a statement can lead that leaves the transaction open. -/
inductive LineProceeds (isLocked : LineLock → Bool) (db : Db) : LineMemory → LineMemory → Prop
  | checked (pick : LinePick) (hdelta : 0 < pick.delta) :
      LineProceeds isLocked db .start (.checked pick)
  | recorded (pick : LinePick) (hfree : isLocked (.task pick.pickTaskId) = false) :
      LineProceeds isLocked db (.checked pick) (.recorded pick)
  | credited (pick : LinePick) (line : TransferOrderLine)
      (hfound : db.transferOrderLines.find? pick.toLineId = some line)
      (hmatches : pickMatches pick.delta line = true)
      (hfree : isLocked (.line pick.toLineId) = false) :
      LineProceeds isLocked db (.recorded pick) (.credited pick (pickLine pick.delta line))
  | promoted (pick : LinePick) (version : TransferOrderLine) (promotes : Bool)
      (hfree : promotes = true → isLocked (.header pick.toId) = false) :
      LineProceeds isLocked db (.credited pick version) (.promoted pick version promotes)
  | submitting (ctx : RequestContext) (toId : ℕ) (hfree : isLocked (.header toId) = false) :
      LineProceeds isLocked db .start (.submitting ctx toId)
  | submitted (ctx : RequestContext) (toId : ℕ) (snapshot : List (ℕ × ℕ × ℤ)) :
      LineProceeds isLocked db (.submitting ctx toId) (.submitted ctx toId snapshot)
  | approving (ctx : RequestContext) (approval : TransferOrderApproval)
      (hfree : isLocked (.approval approval.toApprovalId) = false) :
      LineProceeds isLocked db .start (.approving ctx approval)
  | moving (ctx : RequestContext) (approval : TransferOrderApproval) (header : TransferOrder)
      (entries : List (ℕ × ℕ × ℤ)) (hfree : isLocked (.header header.toId) = false) :
      LineProceeds isLocked db (.approving ctx approval) (.moving ctx approval header entries [])
  | skipped (ctx : RequestContext) (approval : TransferOrderApproval) (header : TransferOrder)
      (entry : ℕ × ℕ × ℤ) (rest : List (ℕ × ℕ × ℤ)) (written : List TransferOrderLine) :
      LineProceeds isLocked db (.moving ctx approval header (entry :: rest) written)
        (.moving ctx approval header rest written)
  | moved (ctx : RequestContext) (approval : TransferOrderApproval) (header : TransferOrder)
      (entry : ℕ × ℕ × ℤ) (rest : List (ℕ × ℕ × ℤ)) (written : List TransferOrderLine)
      (line : TransferOrderLine) (hunits : 0 < entry.2.2)
      (hfound : (db.transferOrderLines.overlay written).find? entry.1 = some line)
      (hfits : line.approvedQty + entry.2.2 ≤ line.pickedQty)
      (hfree : isLocked (.line entry.1) = false) :
      LineProceeds isLocked db (.moving ctx approval header (entry :: rest) written)
        (.moving ctx approval header rest (addApproved entry.2.2 line :: written))
  | closing (line : TransferOrderLine) (sourceWarehouseId : ℕ)
      (hfound : db.transferOrderLines.find? line.toLineId = some line)
      (hfree : isLocked (.line line.toLineId) = false) :
      LineProceeds isLocked db .start (.closing line sourceWarehouseId)

/-- What a statement can commit. -/
inductive LineCommits (db : Db) : LineMemory → Db → LineAnswer → Prop
  | other (next : Db) (hsame : SameTransfers db next) :
      LineCommits db .start next .served
  | picked (pick : LinePick) (version : TransferOrderLine) (promotes : Bool) :
      LineCommits db (.promoted pick version promotes) (storePick pick version promotes db)
        (.picked pick.toLineId pick.delta)
  | submitted (ctx : RequestContext) (toId : ℕ) (snapshot : List (ℕ × ℕ × ℤ)) :
      LineCommits db (.submitted ctx toId snapshot) (storeSubmit ctx toId snapshot db) .served
  | approved (ctx : RequestContext) (approval : TransferOrderApproval)
      (header : TransferOrder) (written : List TransferOrderLine) (next : Db)
      (hlines : next.transferOrderLines = db.transferOrderLines.overlay written) :
      LineCommits db (.moving ctx approval header [] written) next .served
  | closed (line : TransferOrderLine) (sourceWarehouseId : ℕ) :
      LineCommits db (.closing line sourceWarehouseId)
        (storeShortClose line sourceWarehouseId db) .served

/-- What a statement comes to. -/
inductive LineStep (isLocked : LineLock → Bool) (db : Db) (memory : LineMemory) :
    LineOutcome → Prop
  | wait : LineStep isLocked db memory .wait
  | refused (error : ServiceError) : LineStep isLocked db memory (.rollback (.refused error))
  | proceeds (after : LineMemory) (hproceeds : LineProceeds isLocked db memory after) :
      LineStep isLocked db memory (.proceed after)
  | commits (next : Db) (answer : LineAnswer) (hcommits : LineCommits db memory next answer) :
      LineStep isLocked db memory (.commit next answer)

section Statements

variable {isLocked : LineLock → Bool} {db : Db}

/-- The pick of a sales-order task leaves the transfer tables alone. -/
theorem sameTransfers_of_salesPick {ctx : RequestContext} {soId : ℕ}
    {soLineId : Option ℕ} {next : Db} {settled : SettledTask}
    (hfound : db.pickTasks.find? confirm.pickTaskId = some task)
    (htarget : task.target = .salesOrder soId soLineId)
    (hserved : confirmPick ctx db confirm = .ok (next, settled)) : SameTransfers db next := by
  cases confirmPick_transfers hserved with
  | inl hsame => exact hsame
  | inr hpicked =>
      obtain ⟨other, toId, toLineId, hother, htransfer, -⟩ := hpicked
      rw [hfound] at hother
      obtain rfl := Option.some.inj hother
      rw [htarget] at htransfer
      cases htransfer

theorem startPick_step (ctx : RequestContext) (confirm : ConfirmPickRequest) :
    LineStep isLocked db .start (startPick ctx db confirm) := by
  rw [startPick]
  split
  · exact .refused _
  · rename_i task item hchecked
    split
    · exact .proceeds _ (.checked _ confirm.quantityPicked_pos)
    · rename_i soId soLineId htarget
      split
      · exact .refused _
      · rename_i next settled hserved
        exact .commits _ _ (.other next
          (sameTransfers_of_salesPick (checkConfirm_ok hchecked).1 htarget hserved))

theorem startSubmit_step (ctx : RequestContext) (toId : ℕ) :
    LineStep isLocked db .start (startSubmit ctx toId isLocked db) := by
  rw [startSubmit]
  split
  · exact .refused _
  · split
    · exact .wait
    · rename_i hfree
      split
      · exact .refused _
      · exact .proceeds _ (.submitting ctx toId ((Bool.not_eq_true _).mp hfree))

theorem startApprove_step (ctx : RequestContext) (toId toApprovalId : ℕ) :
    LineStep isLocked db .start (startApprove ctx toId toApprovalId isLocked db) := by
  rw [startApprove]
  split
  · exact .refused _
  · rename_i approval hfound
    have hkey : approval.toApprovalId = toApprovalId :=
      Table.find?_key (Option.filter_eq_some_iff.mp hfound).1
    subst hkey
    split
    · exact .wait
    · rename_i hfree
      split
      · exact .refused _
      · split
        · exact .refused _
        · exact .proceeds _ (.approving ctx approval ((Bool.not_eq_true _).mp hfree))

theorem startShortClose_step (toId toLineId : ℕ) :
    LineStep isLocked db .start (startShortClose toId toLineId isLocked db) := by
  rw [startShortClose]
  split
  · rename_i line header hline _
    have hfound := (Option.filter_eq_some_iff.mp hline).1
    have hkey : line.toLineId = toLineId := Table.find?_key hfound
    subst hkey
    split
    · exact .wait
    · rename_i hfree
      split
      · exact .refused _
      · exact .proceeds _ (.closing line _ hfound ((Bool.not_eq_true _).mp hfree))
  · exact .refused _

theorem creditPick_step (pick : LinePick) :
    LineStep isLocked db (.recorded pick) (creditPick pick isLocked db) := by
  rw [creditPick]
  split
  · exact .refused _
  · rename_i line hline
    obtain ⟨hfound, hmatches⟩ := Option.filter_eq_some_iff.mp hline
    split
    · exact .wait
    · rename_i hfree
      exact .proceeds _ (.credited pick line hfound hmatches ((Bool.not_eq_true _).mp hfree))

theorem promotePick_step (pick : LinePick) (version : TransferOrderLine) :
    LineStep isLocked db (.credited pick version) (promotePick pick version isLocked db) := by
  rw [promotePick]
  split
  · split
    · exact .wait
    · rename_i hfree
      exact .proceeds _ (.promoted pick version true fun _ => (Bool.not_eq_true _).mp hfree)
  · exact .proceeds _ (.promoted pick version false fun hpromotes => by cases hpromotes)

theorem readSubmit_step (ctx : RequestContext) (toId : ℕ) :
    LineStep isLocked db (.submitting ctx toId) (readSubmit ctx toId db) := by
  rw [readSubmit]
  split
  · exact .refused _
  · exact .proceeds _ (.submitted ..)

theorem readApprove_step (ctx : RequestContext) (approval : TransferOrderApproval) :
    LineStep isLocked db (.approving ctx approval) (readApprove ctx approval isLocked db) := by
  rw [readApprove]
  split
  · exact .refused _
  · rename_i header _
    split
    · exact .wait
    · rename_i hfree
      split
      · exact .refused _
      · exact .proceeds _ (.moving ctx approval header _ ((Bool.not_eq_true _).mp hfree))

theorem creditEntry_step (ctx : RequestContext) (approval : TransferOrderApproval)
    (header : TransferOrder) (entry : ℕ × ℕ × ℤ) (rest : List (ℕ × ℕ × ℤ))
    (written : List TransferOrderLine) :
    LineStep isLocked db (.moving ctx approval header (entry :: rest) written)
      (creditEntry ctx approval header entry rest written isLocked db) := by
  rw [creditEntry]
  split
  · exact .proceeds _ (.skipped ..)
  · rename_i hunits
    split
    · exact .proceeds _ (.skipped ..)
    · rename_i line hfound
      split
      · exact .wait
      · rename_i hfree
        split
        · rename_i hfits
          exact .proceeds _ (.moved ctx approval header entry rest written line
            (not_le.mp hunits) hfound hfits ((Bool.not_eq_true _).mp hfree))
        · exact .refused _

theorem storeApprove_step (ctx : RequestContext) (approval : TransferOrderApproval)
    (header : TransferOrder) (written : List TransferOrderLine) :
    LineStep isLocked db (.moving ctx approval header [] written)
      (storeApprove ctx approval header written db) := by
  rw [storeApprove]
  split
  · exact .refused _
  · rename_i moved hmoved
    refine .commits _ _ (.approved ctx approval header written _ ?_)
    rw [finishApproval_lines, (sameTransfers_moveUnits (orApprovalFailed_eq_ok.mp hmoved)).lines]
    rfl

theorem line_step (request : LineRequest) (memory : LineMemory) (isLocked : LineLock → Bool)
    (db : Db) : LineStep isLocked db memory (lineStatement request memory isLocked db) := by
  cases memory with
  | start =>
      cases request with
      | confirmPick ctx confirm => exact startPick_step ctx confirm
      | submitPicks ctx toId => exact startSubmit_step ctx toId
      | approve ctx toId toApprovalId => exact startApprove_step ctx toId toApprovalId
      | shortClose toId toLineId => exact startShortClose_step toId toLineId
  | checked pick =>
      rw [lineStatement]
      split
      · exact .wait
      · rename_i hfree
        exact .proceeds _ (.recorded pick ((Bool.not_eq_true _).mp hfree))
  | recorded pick => exact creditPick_step pick
  | credited pick version => exact promotePick_step pick version
  | promoted pick version promotes => exact .commits _ _ (.picked ..)
  | submitting ctx toId => exact readSubmit_step ctx toId
  | submitted ctx toId snapshot => exact .commits _ _ (.submitted ..)
  | approving ctx approval => exact readApprove_step ctx approval
  | moving ctx approval header entries written =>
      cases entries with
      | nil => exact storeApprove_step ctx approval header written
      | cons entry rest => exact creditEntry_step ctx approval header entry rest written
  | closing line sourceWarehouseId => exact .commits _ _ (.closed ..)

variable {request : LineRequest} {memory after : LineMemory} {next : Db} {answer : LineAnswer}

theorem line_proceeds (hproceed : lineStatement request memory isLocked db = .proceed after) :
    LineProceeds isLocked db memory after := by
  have hstep := line_step request memory isLocked db
  rw [hproceed] at hstep
  cases hstep with
  | proceeds after hproceeds => exact hproceeds

theorem line_commits
    (hcommit : lineStatement request memory isLocked db = .commit next answer) :
    LineCommits db memory next answer := by
  have hstep := line_step request memory isLocked db
  rw [hcommit] at hstep
  cases hstep with
  | commits next answer hcommits => exact hcommits

theorem line_refuses (hrollback : lineStatement request memory isLocked db = .rollback answer) :
    ∃ error, answer = .refused error := by
  have hstep := line_step request memory isLocked db
  rw [hrollback] at hstep
  cases hstep with
  | refused error => exact ⟨error, rfl⟩

end Statements

end SentryWms.TransferOrders

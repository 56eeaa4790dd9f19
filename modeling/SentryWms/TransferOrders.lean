import SentryWms.Statements

/-!
# Transfer-order picks

The part of the transfer-order service the picking flow calls: crediting a pick
to a transfer line under its committed quantity, and submitting the picks of a
finished batch for approval.  Inventory does not move here.
-/

namespace SentryWms.TransferOrders

open Relational

/-- `status IN ('PENDING', 'PARTIALLY_PICKED')`. -/
def pickable (line : TransferOrderLine) : Bool :=
  line.status = .toLinePending ∨ line.status = .toLinePartiallyPicked

/-- `update_transfer_order_line_picked`: the `WHERE` clause caps the pick at the
committed quantity, and no matching row is an over-pick. -/
def updateTransferOrderLinePicked (db : Db) (toLineId : ℕ) (delta : ℤ) :
    Except ServiceError Db := do
  require (0 < delta) (.valueError "delta must be > 0")
  let line ← orThrow
    ((db.transferOrderLines.find? toLineId).filter fun line =>
      line.pickedQty + delta ≤ line.committedQty ∧ pickable line)
    (.overPickAttempt toLineId delta)
  pure
    { db with
      transferOrderLines := db.transferOrderLines.updateKey line.toLineId
        fun row =>
          { row with
            pickedQty := row.pickedQty + delta
            status :=
              if row.pickedQty + delta = row.committedQty then .toLinePicked
              else .toLinePartiallyPicked } }

/-- `maybe_promote_header_to_partially_picked`: the first pick moves an open
transfer order on. -/
def maybePromoteHeaderToPartiallyPicked (db : Db) (toId : ℕ) : Db :=
  { db with
    transferOrders := db.transferOrders.update
      (fun header => header.toId = toId ∧ header.status = .toOpen)
      fun header => { header with status := .toPartiallyPicked } }

/-- The lines with units picked since the last approval. -/
def unsubmittedLines (db : Db) (toId : ℕ) : List TransferOrderLine :=
  Inventory.orderBy (fun left right => left.lineNumber ≤ right.lineNumber)
    (db.transferOrderLines.select fun line => line.toId = toId ∧ line.approvedQty < line.pickedQty)

/-- The header status a submission leaves: everything picked or closed, or
still being picked. -/
def submittedStatus (db : Db) (toId : ℕ) : TransferStatus :=
  if (db.transferOrderLines.select fun line =>
      line.toId = toId ∧ pickable line).isEmpty then .toAwaitingApproval
  else .toPartiallyPicked

/-- `submit_picks`; nothing to submit leaves the transfer order alone. -/
def submitPicks (db : Db) (toId : ℕ) (username : String) : Db :=
  match db.transferOrders.find? toId with
  | none => db
  | some header =>
      if header.status ≠ .toPartiallyPicked ∧
          header.status ≠ .toAwaitingApproval then db
      else
        let lines := unsubmittedLines db toId
        if lines.isEmpty then db
        else
          { db with
            transferOrderApprovals := db.transferOrderApprovals.insert
              fun toApprovalId =>
                { toApprovalId := toApprovalId
                  toId := toId
                  submittedBy := username
                  linesSnapshot := lines.map fun line =>
                    (line.toLineId, line.itemId, line.pickedQty - line.approvedQty) }
            transferOrders := db.transferOrders.updateKey toId fun row =>
              { row with status := submittedStatus db toId } }

end SentryWms.TransferOrders

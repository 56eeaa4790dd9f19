import SentryWms.TransferOrders

/-!
# Transition tables of a transfer order

The declared state machines of headers, lines and approvals, the check the cancel
and short-close routes make against them, and the closure test of a header.  The
other writers of a status do not consult the tables.
-/

namespace SentryWms.TransferOrders

open Relational

/-- `_HEADER_TRANSITIONS`. -/
def headerTransitions : TransferStatus → List TransferStatus
  | .toOpen => [.toPartiallyPicked, .toCancelled]
  | .toPartiallyPicked => [.toPartiallyPicked, .toAwaitingApproval, .toCancelled]
  | .toAwaitingApproval => [.toApproved, .toPartiallyPicked]
  | .toApproved => [.toClosed, .toPartiallyPicked]
  | .toClosed => []
  | .toCancelled => []

/-- `_LINE_TRANSITIONS`. -/
def lineTransitions : TransferLineStatus → List TransferLineStatus
  | .toLinePending => [.toLinePartiallyPicked, .toLineShortClosed]
  | .toLinePartiallyPicked =>
      [.toLinePartiallyPicked, .toLinePicked, .toLineShortClosed]
  | .toLinePicked => [.toLineApproved, .toLineShortClosed]
  | .toLineApproved => []
  | .toLineShortClosed => []

/-- A list of texts as Python prints it. -/
def pyList (texts : List String) : String :=
  "[" ++ ", ".intercalate (texts.map fun text => s!"'{text}'") ++ "]"

/-- `_validate_transition`: the message lists the allowed targets in order. -/
def validateTransition {Status : Type} [DecidableEq Status]
    (machine : Status → List Status) (text : Status → String)
    (current target : Status) : Except String Unit :=
  let allowed := Inventory.orderBy (· ≤ ·) ((machine current).map text)
  require (target ∈ machine current)
    s!"invalid transition '{text current}' -> '{text target}'; allowed: {pyList allowed}"

/-- A refused transition as the routes answer it. -/
def orConflict {Status : Type} (text : Status → String) (error : String)
    (current : Status) (checked : Except String Unit) : Except ServiceError Unit :=
  match checked with
  | .ok _ => .ok ()
  | .error detail => .error (.statusConflict error (text current) detail)

/-- `validate_header_transition`, with the answer of the cancel route. -/
def validateHeaderTransition (error : String) (current target : TransferStatus) :
    Except ServiceError Unit :=
  orConflict TransferStatus.text error current
    (validateTransition headerTransitions TransferStatus.text current target)

/-- `validate_line_transition`, with the answer of the short-close route. -/
def validateLineTransition (error : String) (current target : TransferLineStatus) :
    Except ServiceError Unit :=
  orConflict TransferLineStatus.text error current
    (validateTransition lineTransitions TransferLineStatus.text current target)

variable {error : String} {u : Unit}

theorem orConflict_eq_ok {Status : Type} {text : Status → String} {current : Status}
    {checked : Except String Unit} :
    orConflict text error current checked = .ok u ↔ checked = .ok () := by
  cases checked <;> simp [orConflict]

@[simp]
theorem validateHeaderTransition_eq_ok {current target : TransferStatus} :
    validateHeaderTransition error current target = .ok u ↔
      target ∈ headerTransitions current := by
  rw [validateHeaderTransition, orConflict_eq_ok, validateTransition, require_eq_ok]

@[simp]
theorem validateLineTransition_eq_ok {current target : TransferLineStatus} :
    validateLineTransition error current target = .ok u ↔
      target ∈ lineTransitions current := by
  rw [validateLineTransition, orConflict_eq_ok, validateTransition, require_eq_ok]

/-! ## Closure -/

/-- The test of `is_header_closeable` on one line. -/
def settledLine (line : TransferOrderLine) : Bool :=
  line.status = .toLineShortClosed ∨
    (line.status = .toLineApproved ∧ line.approvedQty = line.pickedQty)

/-- The lines of a transfer order. -/
def linesOf (db : Db) (toId : ℕ) : List TransferOrderLine :=
  db.transferOrderLines.select fun line => line.toId = toId

/-- The approvals of a transfer order that wait for an answer. -/
def pendingApprovals (db : Db) (toId : ℕ) : List TransferOrderApproval :=
  db.transferOrderApprovals.select fun approval =>
    approval.toId = toId ∧ approval.status = .approvalPending

/-- `evaluate_to_closure`. -/
def evaluateToClosure (db : Db) (toId : ℕ) : Bool :=
  linesOf db toId ≠ [] ∧ (linesOf db toId).all settledLine ∧ pendingApprovals db toId = []

end SentryWms.TransferOrders

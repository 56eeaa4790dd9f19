import SentryWms.TransferOrders.Ownership

/-!
# Closing a transfer order

The header of a transfer order is closed by the approval that finds nothing left to
do.  An import, a rejection and a short-close can bring the same about and do not look.
An order that is not cancelled is closed exactly if it is done, after every request of a
run, exactly if none of these completes an order.
-/

namespace SentryWms.TransferOrders

open Relational Inventory Picking

/-! ## Orders with nothing left to do -/

/-- Every line is settled, there is one, and no approval waits. -/
structure Done (db : Db) (toId : ℕ) : Prop where
  listed : linesOf db toId ≠ []
  settled : ∀ line ∈ linesOf db toId, line.status = .toLineShortClosed ∨
    (line.status = .toLineApproved ∧ line.approvedQty = line.pickedQty)
  answered : pendingApprovals db toId = []

variable {db db' : Db} {toId toApprovalId : ℕ} {line : TransferOrderLine}
  {approval : TransferOrderApproval} {header : TransferOrder} {request : ImportRequest}
  {set : TransferOrderLine → TransferOrderLine}

/-- `evaluate_to_closure` tells the orders with nothing left to do. -/
theorem evaluateToClosure_iff : evaluateToClosure db toId = true ↔ Done db toId := by
  simp only [evaluateToClosure, settledLine, decide_eq_true_eq, List.all_eq_true]
  exact ⟨fun ⟨hlisted, hsettled, hanswered⟩ => ⟨hlisted, hsettled, hanswered⟩,
    fun hdone => ⟨hdone.listed, hdone.settled, hdone.answered⟩⟩

/-- The header agrees with the lines and the approvals of its order. -/
def Agrees (db : Db) (header : TransferOrder) : Prop :=
  (header.status ≠ .toCancelled → Done db header.toId → header.status = .toClosed) ∧
    (header.status = .toClosed → Done db header.toId)

/-- An order that is not cancelled is closed exactly if it is done. -/
def ClosedWhenDone (db : Db) : Prop := ∀ header ∈ db.transferOrders.rows, Agrees db header

theorem mem_linesOf :
    line ∈ linesOf db toId ↔ line ∈ db.transferOrderLines.rows ∧ line.toId = toId := by
  simp [linesOf, Table.select]

theorem mem_pendingApprovals :
    approval ∈ pendingApprovals db toId ↔ approval ∈ db.transferOrderApprovals.rows ∧
      approval.toId = toId ∧ approval.status = .approvalPending := by
  simp [pendingApprovals, Table.select]

theorem done_congr {left right : Db} (hlines : linesOf left toId = linesOf right toId)
    (hpending : pendingApprovals left toId = pendingApprovals right toId) :
    Done left toId ↔ Done right toId := by
  constructor
  · intro hdone
    exact ⟨hlines ▸ hdone.listed, hlines ▸ hdone.settled, hpending ▸ hdone.answered⟩
  · intro hdone
    exact ⟨hlines ▸ hdone.listed, hlines ▸ hdone.settled, hpending ▸ hdone.answered⟩

variable {before after : Db} {result : ImportedTransferOrder} {toLineId : ℕ}

theorem SameTransfers.done_iff (hsame : SameTransfers before after) (toId : ℕ) :
    Done after toId ↔ Done before toId := by
  apply done_congr
  · rw [linesOf, linesOf, hsame.lines]
  · rw [pendingApprovals, pendingApprovals, hsame.approvals]

/-- A header that keeps its status keeps in agreement where its order does not change. -/
theorem Agrees.kept (hagrees : Agrees before header)
    (hdone : Done after header.toId ↔ Done before header.toId) : Agrees after header :=
  ⟨fun hopen hafter => hagrees.1 hopen (hdone.mp hafter),
    fun hclosed => hdone.mpr (hagrees.2 hclosed)⟩

/-- A header that is not closed agrees with an order that is not done. -/
theorem agrees_of_not_done (hopen : header.status ≠ .toClosed)
    (hdone : ¬ Done db header.toId) : Agrees db header :=
  ⟨fun _ hfinished => absurd hfinished hdone, fun hclosed => absurd hclosed hopen⟩

/-- A line that can still be picked keeps its order from being done. -/
theorem not_done_of_unsettled (hline : line ∈ db.transferOrderLines.rows)
    (hclosed : line.status ≠ .toLineShortClosed)
    (happroved : line.status ≠ .toLineApproved) : ¬ Done db line.toId := by
  intro hdone
  cases hdone.settled line (mem_linesOf.mpr ⟨hline, rfl⟩) with
  | inl hshort => exact hclosed hshort
  | inr hsettled => exact happroved hsettled.1

/-- So does an approval that waits for its answer. -/
theorem not_done_of_pending (happroval : approval ∈ db.transferOrderApprovals.rows)
    (hpending : approval.status = .approvalPending) : ¬ Done db approval.toId := by
  intro hdone
  have hmem := mem_pendingApprovals.mpr ⟨happroval, rfl, hpending⟩
  rw [hdone.answered] at hmem
  exact List.not_mem_nil hmem

/-! ## Imports -/

/-- A record of the import finds units to commit at the source. -/
def hasStock (db : Db) (request : ImportRequest) : Bool :=
  (resolveWarehouseId db request.sourceWarehouseCode).any fun source =>
    (importedRows db request).any fun row => 0 < totalAvailable db row.itemId source

/-- Where no record fails its checks, every record is imported. -/
theorem importedRows_ne_nil (hread : (readRecords db request.records).filterMap Sum.getLeft? = []) :
    importedRows db request ≠ [] := by
  intro hnone
  have hempty : readRecords db request.records = [] := by
    apply List.eq_nil_iff_forall_not_mem.mpr
    intro read hmem
    cases read with
    | inl error =>
        have hleft : error ∈ (readRecords db request.records).filterMap Sum.getLeft? :=
          List.mem_filterMap.mpr ⟨_, hmem, rfl⟩
        rw [hread] at hleft
        exact List.not_mem_nil hleft
    | inr row =>
        have hright : row ∈ importedRows db request := List.mem_filterMap.mpr ⟨_, hmem, rfl⟩
        rw [hnone] at hright
        exact List.not_mem_nil hright
  rw [readRecords, List.map_eq_nil_iff] at hempty
  have hlength := congrArg List.length hempty
  rw [List.length_zipIdx] at hlength
  exact request.records_ne_nil (List.length_eq_zero_iff.mp hlength)

theorem reserveInventory_zero (itemId warehouseId : ℕ) (db : Db) :
    reserveInventory itemId warehouseId 0 db = db := by
  rw [reserveInventory, draws_of_nonpos spare le_rfl]
  rfl

/-- Something is committed exactly if a row finds units in the state before: rows that
find none reserve nothing. -/
theorem commitRows_commits (source : ℕ) {rows : List ImportRow} (db : Db)
    (hrequested : ∀ row ∈ rows, 0 < row.requestedQty) :
    (∃ entry ∈ (commitRows source rows db).2, 0 < entry.committedQty) ↔
      ∃ row ∈ rows, 0 < totalAvailable db row.itemId source := by
  induction rows with
  | nil => simp [commitRows]
  | cons row rest ih =>
      have hrow := hrequested row List.mem_cons_self
      rw [commitRows]
      by_cases havailable : 0 < totalAvailable db row.itemId source
      · constructor
        · intro _
          exact ⟨row, List.mem_cons_self, havailable⟩
        · intro _
          refine ⟨_, List.mem_cons_self, ?_⟩
          dsimp only
          omega
      · have hnothing : max 0 (min row.requestedQty (totalAvailable db row.itemId source)) = 0 := by
          omega
        have ih := ih fun other hother => hrequested other (List.mem_cons_of_mem _ hother)
        simp only [hnothing, reserveInventory_zero, List.exists_mem_cons_iff, lt_self_iff_false,
          false_or, havailable]
        exact ih

theorem length_commitRows (source : ℕ) (rows : List ImportRow) (db : Db) :
    (commitRows source rows db).2.length = rows.length := by
  induction rows generalizing db with
  | nil => rfl
  | cons row rest ih =>
      rw [commitRows, List.length_cons, List.length_cons]
      exact congrArg (· + 1) (ih _)

/-- An accepted import inserts lines, and commits to one of them exactly if a record
finds units. -/
theorem import_commits (himported : importTransferOrder db request = .ok (db', result)) :
    ∃ added, db'.transferOrderLines.rows = db.transferOrderLines.rows ++ added ∧ added ≠ [] ∧
      ((∃ line ∈ added, 0 < line.committedQty) ↔ hasStock db request = true) := by
  simp only [importTransferOrder, importRows, bind_eq_ok, require_eq_ok, orThrow_eq_ok,
    pure_eq_ok, Prod.mk.injEq] at himported
  obtain ⟨-, -, source, hsource, destination, -, -, hread, opened, hopened, rfl, -⟩ := himported
  have hlines := insertHeader_lines (sameTransfers_commitRows ..) hopened
  generalize hrows : orderBy (fun left right : ImportRow => left.itemId ≤ right.itemId)
    (importedRows db request) = rows
  have hmem : ∀ row, row ∈ rows ↔ row ∈ importedRows db request := by
    intro row
    rw [← hrows]
    exact mem_orderBy
  change ∃ added, (run (insertTransferLine db.transferOrders.nextKey) opened
    ((commitRows source (orderBy _ (importedRows db request)) db).2.zipIdx
      1)).transferOrderLines.rows = _ ∧ _
  rw [hrows]
  obtain ⟨added, hinserted, -, hunits, -⟩ := insertTransferLines_rows
    db.transferOrders.nextKey ((commitRows source rows db).2.zipIdx 1) opened
  have hcommitted : added.map TransferOrderLine.committedQty =
      (commitRows source rows db).2.map CommittedRow.committedQty := by
    have hsecond := congrArg (List.map Prod.snd) hunits
    rw [List.map_map, List.map_map] at hsecond
    calc
      added.map TransferOrderLine.committedQty =
          ((commitRows source rows db).2.zipIdx 1).map fun entry => entry.1.committedQty :=
        hsecond
      _ = (((commitRows source rows db).2.zipIdx 1).map Prod.fst).map
            CommittedRow.committedQty := by
        rw [List.map_map]
        rfl
      _ = (commitRows source rows db).2.map CommittedRow.committedQty := by
        rw [List.zipIdx_map_fst]
  refine ⟨added, by rw [hinserted, hlines], ?_, ?_⟩
  · intro hnone
    have hlength := congrArg List.length hcommitted
    rw [hnone, List.map_nil, List.length_map, length_commitRows, ← hrows,
      (orderBy_perm _ _).length_eq] at hlength
    exact importedRows_ne_nil hread (List.length_eq_zero_iff.mp hlength.symm)
  · have hany : (∃ line ∈ added, 0 < line.committedQty) ↔
        ∃ entry ∈ (commitRows source rows db).2, 0 < entry.committedQty := by
      have hqty : (∃ qty ∈ added.map TransferOrderLine.committedQty, 0 < qty) ↔
          ∃ qty ∈ (commitRows source rows db).2.map CommittedRow.committedQty, 0 < qty := by
        rw [hcommitted]
      simpa only [List.mem_map, exists_exists_and_eq_and] using hqty
    rw [hany, commitRows_commits source db fun row hrow =>
      importedRows_requested ((hmem row).mp hrow)]
    simp only [hasStock, hsource, Option.any_some, List.any_eq_true, decide_eq_true_eq, hmem]

/-- An accepted import leaves a closed order out exactly if nothing was committed. -/
theorem import_closed (howned : Owned db) (hclosed : ClosedWhenDone db)
    (himported : importTransferOrder db request = .ok (db', result)) :
    ClosedWhenDone db' ↔ hasStock db request = true := by
  have hspec := importTransferOrder_imported himported
  obtain ⟨header, -, -, -, added, hkey, hstatus, horders, -, -, hlines, -, hadded⟩ := hspec.written
  obtain ⟨added', hlines', hnonempty, hcommits⟩ := import_commits himported
  obtain rfl : added' = added := List.append_cancel_left (hlines'.symm.trans hlines)
  have hpending : ∀ toId, pendingApprovals db' toId = pendingApprovals db toId := by
    intro toId
    rw [pendingApprovals, hspec.approvals, pendingApprovals]
  have hold : ∀ other ∈ db.transferOrders.rows, Agrees db' other := by
    intro other hother
    have hlt := db.transferOrders.keys_lt other hother
    refine (hclosed other hother).kept (done_congr ?_ (hpending other.toId))
    have hnone : added'.filter (fun line => line.toId = other.toId) = [] := by
      rw [List.filter_eq_nil_iff]
      intro line hline
      have horder := (hadded line hline).2.1
      rw [decide_eq_true_eq]
      omega
    rw [linesOf, linesOf, Table.select, Table.select, hlines, List.filter_append, hnone,
      List.append_nil]
  have hdone : Done db' header.toId ↔ ¬ ∃ line ∈ added', 0 < line.committedQty := by
    have hown : linesOf db' header.toId = added' := by
      have hnone : db.transferOrderLines.rows.filter
          (fun line => line.toId = header.toId) = [] := by
        rw [List.filter_eq_nil_iff]
        intro line hline
        have hlt := howned.lines line hline
        rw [decide_eq_true_eq]
        omega
      rw [linesOf, Table.select, hlines, List.filter_append, hnone, List.nil_append,
        List.filter_eq_self]
      exact fun line hline => decide_eq_true (hadded line hline).2.1
    constructor
    · rintro hdone ⟨line, hline, hcommitted⟩
      have hopen := (hadded line hline).2.2.2.2
      rw [if_pos hcommitted] at hopen
      apply not_done_of_unsettled _ _ _ ((hadded line hline).2.1 ▸ hdone)
      · rw [hlines]
        exact List.mem_append_right _ hline
      · rw [hopen]
        decide
      · rw [hopen]
        decide
    · intro hnone
      refine ⟨hown ▸ hnonempty, ?_, ?_⟩
      · intro line hline
        rw [hown] at hline
        have hshort := (hadded line hline).2.2.2.2
        rw [if_neg fun hcommitted => hnone ⟨line, hline, hcommitted⟩] at hshort
        exact Or.inl hshort
      · rw [hpending, List.eq_nil_iff_forall_not_mem]
        intro approval happroval
        obtain ⟨hmem, horder, -⟩ := mem_pendingApprovals.mp happroval
        have hlt := howned.approvals approval hmem
        omega
  rw [← hcommits]
  constructor
  · intro hafter
    by_contra hnone
    have hagrees := hafter header (horders ▸ List.mem_append_right _ List.mem_cons_self)
    have hshut := hagrees.1 (by rw [hstatus]; decide) (hdone.mpr hnone)
    rw [hstatus] at hshut
    cases hshut
  · intro hsome other hother
    rw [horders] at hother
    cases List.mem_append.mp hother with
    | inl hbefore => exact hold other hbefore
    | inr hnew =>
        rw [List.mem_singleton.mp hnew]
        exact agrees_of_not_done (by rw [hstatus]; decide) fun hall => hdone.mp hall hsome

/-! ## Lines rewritten in place -/

/-- The lines are rewritten in place, each within its order. -/
structure Rewritten (db db' : Db) (set : TransferOrderLine → TransferOrderLine) : Prop where
  rows : db'.transferOrderLines.rows = db.transferOrderLines.rows.map set
  order : ∀ line, (set line).toId = line.toId

theorem Rewritten.mem_linesOf (hrewritten : Rewritten db db' set) :
    line ∈ linesOf db' toId ↔ ∃ old ∈ linesOf db toId, set old = line := by
  rw [TransferOrders.mem_linesOf, hrewritten.rows, List.mem_map]
  constructor
  · rintro ⟨⟨old, hold, rfl⟩, horder⟩
    rw [hrewritten.order] at horder
    exact ⟨old, TransferOrders.mem_linesOf.mpr ⟨hold, horder⟩, rfl⟩
  · rintro ⟨old, hold, rfl⟩
    obtain ⟨hmem, horder⟩ := TransferOrders.mem_linesOf.mp hold
    exact ⟨⟨old, hmem, rfl⟩, (hrewritten.order old).trans horder⟩

/-- Of an order none of whose lines is rewritten the same lines remain. -/
theorem Rewritten.linesOf_eq (hrewritten : Rewritten db db' set)
    (hsame : ∀ line ∈ linesOf db toId, set line = line) :
    linesOf db' toId = linesOf db toId := by
  have horders : (fun line : TransferOrderLine => decide (line.toId = toId)) ∘ set =
      fun line => decide (line.toId = toId) := by
    funext line
    simp only [Function.comp, hrewritten.order]
  calc
    linesOf db' toId = (linesOf db toId).map set := by
      rw [linesOf, linesOf, Table.select, Table.select, hrewritten.rows, List.filter_map, horders]
    _ = (linesOf db toId).map id := List.map_congr_left hsame
    _ = linesOf db toId := List.map_id _

/-- A line found by its key is rewritten, and no line of another order. -/
theorem rewritten_updateKey {hset : ∀ row, (set row).toLineId = row.toLineId}
    (hlines : db'.transferOrderLines = db.transferOrderLines.updateKey line.toLineId set hset)
    (horder : ∀ row, (set row).toId = row.toId) :
    ∃ rewrite, Rewritten db db' rewrite ∧ rewrite line = set line ∧
      ∀ other ∈ db.transferOrderLines.rows, other.toLineId ≠ line.toLineId →
        rewrite other = other := by
  refine ⟨fun row => if row.toLineId = line.toLineId then set row else row, ⟨?_, ?_⟩,
    if_pos rfl, fun other _ hother => if_neg hother⟩
  · rw [hlines, Table.updateKey, Table.update]
    simp only [decide_eq_true_eq]
  · intro row
    split
    · exact horder row
    · rfl

/-- Rewriting a line leaves the other orders as they were. -/
theorem done_of_other (hline : line ∈ db.transferOrderLines.rows)
    {rewrite : TransferOrderLine → TransferOrderLine}
    (hrewritten : Rewritten db db' rewrite)
    (hothers : ∀ other ∈ db.transferOrderLines.rows, other.toLineId ≠ line.toLineId →
      rewrite other = other) (hother : toId ≠ line.toId)
    (hpending : pendingApprovals db' toId = pendingApprovals db toId) :
    Done db' toId ↔ Done db toId := by
  refine done_congr (hrewritten.linesOf_eq ?_) hpending
  intro other hmem
  obtain ⟨hstored, horder⟩ := mem_linesOf.mp hmem
  apply hothers other hstored
  intro hkey
  have hsame : other = line :=
    List.inj_on_of_nodup_map db.transferOrderLines.keys_nodup hstored hline hkey
  exact hother (horder.symm.trans (congrArg TransferOrderLine.toId hsame))

/-! ## Requests that look, and requests that leave work -/

theorem SameTransfers.closed (hsame : SameTransfers db db')
    (hclosed : ClosedWhenDone db) : ClosedWhenDone db' := by
  intro header hheader
  rw [hsame.orders] at hheader
  exact (hclosed header hheader).kept (hsame.done_iff header.toId)

theorem pickable_unsettled (hpickable : pickable line) :
    line.status ≠ .toLineShortClosed ∧ line.status ≠ .toLineApproved := by
  simp only [pickable, decide_eq_true_eq] at hpickable
  rcases hpickable with hpending | hpartly
  · rw [hpending]
    decide
  · rw [hpartly]
    decide

/-- A pick leaves its line to be approved. -/
theorem Picked.closed {quantity : ℤ} (hpicked : Picked db toId toLineId quantity db')
    (hclosed : ClosedWhenDone db) : ClosedWhenDone db' := by
  obtain ⟨line, hfound, hpickable, -⟩ := hpicked.line
  have hline := Table.find?_mem hfound
  have hkey : line.toLineId = toLineId := Table.find?_key hfound
  subst hkey
  obtain ⟨rewrite, hrewritten, htaken, hothers⟩ :=
    rewritten_updateKey hpicked.lines fun _ => rfl
  have hbefore : ¬ Done db line.toId :=
    not_done_of_unsettled hline (pickable_unsettled hpickable).1 (pickable_unsettled hpickable).2
  have hafter : ¬ Done db' line.toId := by
    have hmem : rewrite line ∈ db'.transferOrderLines.rows := by
      rw [hrewritten.rows]
      exact List.mem_map_of_mem hline
    rw [← hrewritten.order line]
    apply not_done_of_unsettled hmem
    · rw [htaken]
      dsimp only
      split <;> decide
    · rw [htaken]
      dsimp only
      split <;> decide
  have hdone : ∀ other, Done db' other ↔ Done db other := by
    intro other
    by_cases hother : other = line.toId
    · subst hother
      exact iff_of_false hafter hbefore
    · apply done_of_other hline hrewritten hothers hother
      rw [pendingApprovals, hpicked.approvals, pendingApprovals]
  intro header hheader
  rw [hpicked.orders] at hheader
  obtain ⟨old, hold, rfl⟩ := List.mem_map.mp hheader
  split
  · rename_i htest
    have hopen : old.status = .toOpen := (of_decide_eq_true htest).2
    apply agrees_of_not_done
    · intro hshut
      cases hshut
    · intro hall
      have hshut := (hclosed old hold).1 (by rw [hopen]; decide) ((hdone old.toId).mp hall)
      rw [hopen] at hshut
      cases hshut
  · exact (hclosed old hold).kept (hdone old.toId)

/-- A submission leaves an approval to be answered. -/
theorem Submitted.closed {username : String}
    (hsubmitted : Submitted db toId username db') (hclosed : ClosedWhenDone db) :
    ClosedWhenDone db' := by
  have hwaits : ¬ Done db' toId := by
    intro hdone
    have hnone := hdone.answered
    rw [pendingApprovals, hsubmitted.approvals, Table.select, Table.insert,
      List.filter_append, List.append_eq_nil_iff] at hnone
    simpa using hnone.2
  have hothers : ∀ other, other ≠ toId → (Done db' other ↔ Done db other) := by
    intro other hother
    apply done_congr
    · rw [linesOf, hsubmitted.lines, linesOf]
    · rw [pendingApprovals, pendingApprovals, hsubmitted.approvals, Table.select, Table.select,
        Table.insert, List.filter_append, List.filter_cons, if_neg, List.filter_nil,
        List.append_nil]
      simp [Ne.symm hother]
  intro header hheader
  rw [hsubmitted.orders] at hheader
  obtain ⟨old, hold, rfl⟩ := Table.exists_of_mem_updateKey hheader
  split
  · rename_i hkey
    apply agrees_of_not_done
    · change submittedStatus db toId ≠ .toClosed
      rw [submittedStatus]
      split <;> decide
    · exact hkey ▸ hwaits
  · rename_i hkey
    exact (hclosed old hold).kept (hothers old.toId hkey)

/-- An answered approval waits no more, and the others do. -/
theorem pendingApprovals_answered {answer : ApprovalStatus} {approvedBy : Option String}
    (hanswer : answer ≠ .approvalPending) (happrovals : db'.transferOrderApprovals =
      db.transferOrderApprovals.updateKey toApprovalId fun row =>
        { row with status := answer, approvedBy := approvedBy }) (toId : ℕ) :
    pendingApprovals db' toId =
      (pendingApprovals db toId).filter fun approval => approval.toApprovalId ≠ toApprovalId := by
  rw [pendingApprovals, pendingApprovals, happrovals, Table.select, Table.select, Table.updateKey,
    Table.update]
  dsimp only
  induction db.transferOrderApprovals.rows with
  | nil => rfl
  | cons approval rest ih =>
      rw [List.map_cons, List.filter_cons, List.filter_cons, ih]
      by_cases hkey : approval.toApprovalId = toApprovalId
      · by_cases hwaits : approval.toId = toId ∧ approval.status = .approvalPending
        · simp [hkey, hanswer, hwaits]
        · simp [hkey, hanswer, hwaits]
      · by_cases hwaits : approval.toId = toId ∧ approval.status = .approvalPending
        · simp [hkey, hwaits]
        · simp [hkey, hwaits]

/-- An answer to an approval leaves those of the other orders. -/
theorem pendingApprovals_of_other
    (hfound : db.transferOrderApprovals.find? toApprovalId = some approval)
    (horder : approval.toId = toId) (hanswered : ∀ other, pendingApprovals db' other =
      (pendingApprovals db other).filter fun row => row.toApprovalId ≠ toApprovalId)
    {other : ℕ} (hother : other ≠ toId) :
    pendingApprovals db' other = pendingApprovals db other := by
  rw [hanswered, List.filter_eq_self]
  intro row hrow
  obtain ⟨hmem, hroworder, -⟩ := mem_pendingApprovals.mp hrow
  apply decide_eq_true
  intro hkey
  have hstored := Table.find?_eq_some_iff.mpr ⟨hmem, hkey⟩
  rw [hfound] at hstored
  obtain rfl := Option.some.inj hstored
  exact hother (hroworder.symm.trans horder)

/-- An approval closes its order if it finds it done. -/
theorem Approved.closed {ctx : RequestContext} {moved : Db}
    (happroved : Approved ctx toId toApprovalId header approval db moved db')
    (howned : Owned db) (hclosed : ClosedWhenDone db) : ClosedWhenDone db' := by
  have hheader : header.toId = toId := Table.find?_key happroved.stored
  have hkey : approval.toApprovalId = toApprovalId := Table.find?_key happroved.found
  have hmem := Table.find?_mem happroved.found
  have hanswered : ∀ other, pendingApprovals db' other =
      (pendingApprovals db other).filter fun row => row.toApprovalId ≠ toApprovalId :=
    pendingApprovals_answered (by decide) happroved.approvals
  obtain ⟨-, credit, hcredits, hrows⟩ := moveEntries_credits happroved.moves
  have hrewritten : Rewritten db db' credit :=
    ⟨by rw [happroved.lines, hrows], hcredits.order⟩
  have hothers : ∀ other, other ≠ toId → (Done db' other ↔ Done db other) := by
    intro other hother
    refine done_congr (hrewritten.linesOf_eq ?_)
      (pendingApprovals_of_other happroved.found happroved.order hanswered hother)
    intro line hline
    obtain ⟨hstored, horder⟩ := mem_linesOf.mp hline
    apply hcredits.unlisted
    intro entry hentry hlisted
    have hown := (howned.snapshots approval hmem entry (mem_orderBy.mp hentry)).2 line hstored
      hlisted.symm
    exact hother (horder.symm.trans (hown.trans happroved.order))
  have hevaluated : evaluateToClosure (answerApproval approval.toApprovalId .approvalApproved
      (some ctx.username) moved) header.toId = true ↔ Done db' toId := by
    rw [evaluateToClosure_iff, hheader]
    apply done_congr
    · rw [linesOf, linesOf, happroved.lines]
      rfl
    · have happrovals := (moveEntries_frame happroved.moves).2.1
      rw [pendingApprovals, pendingApprovals, happroved.approvals, ← happrovals, ← hkey]
      rfl
  have hbefore : ¬ Done db toId := happroved.order ▸ not_done_of_pending hmem happroved.pending
  intro row hrow
  rw [happroved.orders] at hrow
  split at hrow
  · rename_i hcloses
    obtain ⟨old, hold, rfl⟩ := Table.exists_of_mem_updateKey hrow
    split
    · rename_i hhere
      have hdone : Done db' old.toId := (hhere.trans hheader) ▸ hevaluated.mp hcloses
      exact ⟨fun _ _ => rfl, fun _ => hdone⟩
    · rename_i hhere
      exact (hclosed old hold).kept (hothers old.toId (hheader ▸ hhere))
  · rename_i hopens
    by_cases hhere : row.toId = toId
    · apply agrees_of_not_done
      · intro hshut
        exact hbefore (hhere ▸ (hclosed row hrow).2 hshut)
      · rw [hhere]
        exact fun hdone => hopens (hevaluated.mpr hdone)
    · exact (hclosed row hrow).kept (hothers row.toId hhere)

theorem CancelledTransfer.closed (hcancelled : CancelledTransfer toId db db')
    (hclosed : ClosedWhenDone db) : ClosedWhenDone db' := by
  have hdone : ∀ other, Done db' other ↔ Done db other := by
    intro other
    apply done_congr
    · rw [linesOf, hcancelled.lines, linesOf]
    · rw [pendingApprovals, hcancelled.approvals, pendingApprovals]
  intro header hheader
  rw [hcancelled.orders] at hheader
  obtain ⟨old, hold, rfl⟩ := Table.exists_of_mem_updateKey hheader
  split
  · exact ⟨fun hopen => absurd rfl hopen, fun hshut => by cases hshut⟩
  · exact (hclosed old hold).kept (hdone old.toId)

theorem DeletedTransfer.closed (hdeleted : DeletedTransfer toId db db')
    (hclosed : ClosedWhenDone db) : ClosedWhenDone db' := by
  intro header hheader
  rw [hdeleted.orders] at hheader
  obtain ⟨hmem, hother⟩ := List.mem_filter.mp hheader
  simp only [Bool.not_eq_eq_eq_not, Bool.not_true, decide_eq_false_iff_not] at hother
  apply (hclosed header hmem).kept
  apply done_congr
  · rw [linesOf, linesOf, hdeleted.lines, Table.select, Table.select, Table.delete,
      List.filter_filter]
    apply List.filter_congr
    intro line _
    by_cases horder : line.toId = header.toId
    · simp [horder, hother]
    · simp [horder]
  · rw [pendingApprovals, hdeleted.approvals, pendingApprovals]

/-! ## Requests that do not look -/

/-- The order is stored, and not cancelled. -/
def live (db : Db) (toId : ℕ) : Bool :=
  (db.transferOrders.find? toId).any fun header => header.status ≠ .toCancelled

/-- Only this line keeps the order from being done. -/
def LastLine (db : Db) (toId toLineId : ℕ) : Prop :=
  (∀ line ∈ linesOf db toId, line.toLineId ≠ toLineId → settledLine line = true) ∧
    pendingApprovals db toId = []

/-- Only this approval does. -/
def LastApproval (db : Db) (toId toApprovalId : ℕ) : Prop :=
  linesOf db toId ≠ [] ∧ (∀ line ∈ linesOf db toId, settledLine line = true) ∧
    ∀ approval ∈ pendingApprovals db toId, approval.toApprovalId = toApprovalId

instance (db : Db) (toId toLineId : ℕ) : Decidable (LastLine db toId toLineId) :=
  inferInstanceAs (Decidable ((∀ _ ∈ _, _ → _) ∧ _))

instance (db : Db) (toId toApprovalId : ℕ) : Decidable (LastApproval db toId toApprovalId) :=
  inferInstanceAs (Decidable (_ ∧ _))

theorem settledLine_iff :
    settledLine line = true ↔ line.status = .toLineShortClosed ∨
      (line.status = .toLineApproved ∧ line.approvedQty = line.pickedQty) := by
  rw [settledLine, decide_eq_true_iff]

/-- A request that changes one order, not done before, and no header. -/
theorem closed_iff_of_orders (hclosed : ClosedWhenDone db)
    (horders : db'.transferOrders = db.transferOrders)
    (hothers : ∀ other, other ≠ toId → (Done db' other ↔ Done db other))
    (hbefore : ¬ Done db toId) :
    ClosedWhenDone db' ↔ ¬ (live db toId = true ∧ Done db' toId) := by
  constructor
  · rintro hafter ⟨hlive, hdone⟩
    obtain ⟨header, hheader, hopen⟩ := Option.any_eq_true _ _ |>.mp hlive
    have hmem := Table.find?_mem hheader
    have hkey : header.toId = toId := Table.find?_key hheader
    have hshut := (hafter header (horders ▸ hmem)).1 (of_decide_eq_true hopen) (hkey ▸ hdone)
    exact hbefore (hkey ▸ (hclosed header hmem).2 hshut)
  · intro hnot header hheader
    rw [horders] at hheader
    by_cases hhere : header.toId = toId
    · have hopen : header.status ≠ .toClosed := fun hshut =>
        hbefore (hhere ▸ (hclosed header hheader).2 hshut)
      refine ⟨?_, fun hshut => absurd hshut hopen⟩
      intro hlive hdone
      exfalso
      apply hnot
      refine ⟨?_, hhere ▸ hdone⟩
      rw [live, Table.find?_eq_some_iff.mpr ⟨hheader, hhere⟩, Option.any_some]
      exact decide_eq_true hlive
    · exact (hclosed header hheader).kept (hothers header.toId hhere)

theorem Rejected.closed_iff (hrejected : Rejected toId toApprovalId db db')
    (hclosed : ClosedWhenDone db) :
    ClosedWhenDone db' ↔ ¬ (live db toId = true ∧ LastApproval db toId toApprovalId) := by
  obtain ⟨approval, hfound, horder, hpending⟩ := hrejected.found
  obtain ⟨approvedBy, happrovals⟩ := hrejected.approvals
  have hanswered : ∀ other, pendingApprovals db' other =
      (pendingApprovals db other).filter fun row => row.toApprovalId ≠ toApprovalId :=
    pendingApprovals_answered (by decide) happrovals
  have hlines : ∀ other, linesOf db' other = linesOf db other := by
    intro other
    rw [linesOf, hrejected.lines, linesOf]
  have hdone : Done db' toId ↔ LastApproval db toId toApprovalId := by
    have hnone : pendingApprovals db' toId = [] ↔
        ∀ row ∈ pendingApprovals db toId, row.toApprovalId = toApprovalId := by
      rw [hanswered, List.filter_eq_nil_iff]
      simp
    constructor
    · intro hdone
      exact ⟨hlines toId ▸ hdone.listed,
        fun line hline => settledLine_iff.mpr (hdone.settled line (hlines toId ▸ hline)),
        hnone.mp hdone.answered⟩
    · rintro ⟨hlisted, hsettled, honly⟩
      exact ⟨hlines toId ▸ hlisted,
        fun line hline => settledLine_iff.mp (hsettled line (hlines toId ▸ hline)),
        hnone.mpr honly⟩
  rw [← hdone]
  apply closed_iff_of_orders hclosed hrejected.orders
  · intro other hother
    exact done_congr (hlines other) (pendingApprovals_of_other hfound horder hanswered hother)
  · exact horder ▸ not_done_of_pending (Table.find?_mem hfound) hpending

theorem ShortClosed.closed_iff (hshort : ShortClosed toId toLineId db db')
    (hclosed : ClosedWhenDone db) :
    ClosedWhenDone db' ↔ ¬ (live db toId = true ∧ LastLine db toId toLineId) := by
  obtain ⟨line, header, hfound, horder, -, hedge, -⟩ := hshort.line
  have hline := Table.find?_mem hfound
  have hkey : line.toLineId = toLineId := Table.find?_key hfound
  subst hkey
  obtain ⟨rewrite, hrewritten, hends, hothers⟩ := rewritten_updateKey hshort.lines fun _ => rfl
  have hpending : ∀ other, pendingApprovals db' other = pendingApprovals db other := by
    intro other
    rw [pendingApprovals, hshort.approvals, pendingApprovals]
  have hdone : Done db' toId ↔ LastLine db toId line.toLineId := by
    have hmem : line ∈ linesOf db toId := mem_linesOf.mpr ⟨hline, horder⟩
    constructor
    · intro hdone
      refine ⟨?_, hpending toId ▸ hdone.answered⟩
      intro other hother hne
      have hsame := hothers other (mem_linesOf.mp hother).1 hne
      exact settledLine_iff.mpr
        (hdone.settled other (hrewritten.mem_linesOf.mpr ⟨other, hother, hsame⟩))
    · rintro ⟨hsettled, hanswered⟩
      refine ⟨List.ne_nil_of_mem (hrewritten.mem_linesOf.mpr ⟨line, hmem, rfl⟩), ?_,
        (hpending toId).trans hanswered⟩
      intro after hafter
      obtain ⟨other, hother, rfl⟩ := hrewritten.mem_linesOf.mp hafter
      by_cases hne : other.toLineId = line.toLineId
      · have hsame : other = line := List.inj_on_of_nodup_map
          db.transferOrderLines.keys_nodup (mem_linesOf.mp hother).1 hline hne
        rw [hsame, hends]
        exact Or.inl rfl
      · rw [hothers other (mem_linesOf.mp hother).1 hne]
        exact settledLine_iff.mp (hsettled other hother hne)
  rw [← hdone]
  apply closed_iff_of_orders hclosed hshort.orders
  · intro other hother
    exact done_of_other hline hrewritten hothers (horder ▸ hother) (hpending other)
  · rw [← horder]
    apply not_done_of_unsettled hline
    · intro hstatus
      rw [hstatus] at hedge
      cases hedge
    · intro hstatus
      rw [hstatus] at hedge
      cases hedge

/-! ## All requests -/

/-- The request leaves an order done and does not look: an import that commits nothing,
the rejection of the last approval, the short-close of the last line. -/
def CompletesUnseen (db : Db) (call : TransferCall) : Prop :=
  match call.request with
  | .importTransferOrder request =>
      (importTransferOrder db request).isOk ∧ hasStock db request = false
  | .reject toId toApprovalId =>
      (rejectTransferOrderApproval db toId toApprovalId).isOk ∧ live db toId = true ∧
        LastApproval db toId toApprovalId
  | .shortClose toId toLineId =>
      (shortCloseToLine db toId toLineId).isOk ∧ live db toId = true ∧ LastLine db toId toLineId
  | _ => False

instance (db : Db) (call : TransferCall) : Decidable (CompletesUnseen db call) := by
  obtain ⟨ctx, request⟩ := call
  cases_type TransferRequest <;> unfold CompletesUnseen <;> infer_instance

instance (db : Db) (toId : ℕ) : Decidable (Done db toId) := decidable_of_iff _ evaluateToClosure_iff

instance (db : Db) (header : TransferOrder) : Decidable (Agrees db header) :=
  inferInstanceAs (Decidable ((_ → _ → _) ∧ (_ → _)))

instance (db : Db) : Decidable (ClosedWhenDone db) := inferInstanceAs (Decidable (∀ _ ∈ _, _))

/-- Submissions of the orders of a batch. -/
theorem submitAll_closed (toIds : List ℕ) (username : String) (hclosed : ClosedWhenDone db) :
    ClosedWhenDone (run (fun db toId => submitPicks db toId username) db toIds) := by
  refine run_invariant (fun state toId hstate (_ : True) => ?_) hclosed
    (along_forall (fun _ _ => trivial) _ _)
  cases submitPicks_cases state toId username with
  | inl hsame => rwa [hsame]
  | inr hsubmitted => exact hsubmitted.closed hstate

/-- A refused request changes nothing. -/
theorem committed_iff {Result : Type} {outcome : Except ServiceError (Db × Result)}
    {holds : Db → Prop} {bad : Prop} (hbefore : holds db)
    (hserved : ∀ db' result, outcome = .ok (db', result) → (holds db' ↔ ¬ bad)) :
    holds (committed db outcome) ↔ ¬ (outcome.isOk = true ∧ bad) := by
  cases outcome with
  | error refusal => exact iff_of_true hbefore fun hbad => by cases hbad.1
  | ok served =>
      refine (hserved served.1 served.2 rfl).trans (not_congr ?_)
      exact ⟨fun hbad => ⟨rfl, hbad⟩, fun hbad => hbad.2⟩

/-- A request keeps headers and lines in agreement exactly if it completes no order
unseen. -/
theorem serveTransfer_closed (call : TransferCall) (howned : Owned db)
    (hclosed : ClosedWhenDone db) :
    ClosedWhenDone (serveTransfer db call) ↔ ¬ CompletesUnseen db call := by
  obtain ⟨ctx, request⟩ := call
  cases request with
  | outside request =>
      exact iff_of_true ((request.sameTransfers ctx db).closed hclosed) fun hbad => hbad
  | importTransferOrder request =>
      refine committed_iff hclosed fun db' result hserved => ?_
      rw [import_closed howned hclosed hserved, Bool.not_eq_false]
  | startToPicking toId =>
      refine iff_of_true ?_ fun hbad => hbad
      exact committed_cases hclosed fun db' result hserved =>
        (startToPicking_frame hserved).1.closed hclosed
  | confirmPick request =>
      refine iff_of_true ?_ fun hbad => hbad
      refine committed_cases hclosed fun db' result hserved => ?_
      cases confirmPick_transfers hserved with
      | inl hsame => exact hsame.closed hclosed
      | inr hpicked =>
          obtain ⟨task, toId, toLineId, -, -, -, hpicked⟩ := hpicked
          exact hpicked.closed hclosed
  | shortPick request =>
      refine iff_of_true ?_ fun hbad => hbad
      exact committed_cases hclosed fun db' result hserved =>
        (shortPick_transfers hserved).closed hclosed
  | completeBatch batchId =>
      refine iff_of_true ?_ fun hbad => hbad
      exact committed_cases hclosed fun db' result hserved =>
        (completeBatch_transfers hserved).closed (submitAll_closed _ _ hclosed)
  | cancelBatch batchId =>
      refine iff_of_true ?_ fun hbad => hbad
      exact committed_cases hclosed fun db' result hserved =>
        (fullRevertBatch_transfers hserved).closed hclosed
  | submitPicks toId =>
      refine iff_of_true ?_ fun hbad => hbad
      exact submitAll_closed [toId] ctx.username hclosed
  | approve toId toApprovalId =>
      refine iff_of_true ?_ fun hbad => hbad
      refine committed_cases hclosed fun db' result hserved => ?_
      obtain ⟨header, approval, moved, happroved⟩ := approve_approved hserved
      exact happroved.closed howned hclosed
  | reject toId toApprovalId =>
      exact committed_iff hclosed fun db' result hserved =>
        (reject_rejected hserved).closed_iff hclosed
  | cancel toId =>
      refine iff_of_true ?_ fun hbad => hbad
      exact committed_cases hclosed fun db' result hserved =>
        (cancel_cancelled hserved).closed hclosed
  | delete toId =>
      refine iff_of_true ?_ fun hbad => hbad
      exact committed_cases hclosed fun db' result hserved =>
        (delete_deleted hserved).closed hclosed
  | shortClose toId toLineId =>
      exact committed_iff hclosed fun db' result hserved =>
        (shortClose_shortClosed hserved).closed_iff hclosed

/-- From a database without transfer orders, the headers agree with their lines and
approvals after every request of a run exactly if none completes an order unseen. -/
theorem closed_when_done_iff {db : Db} (hnone : NoTransfers db) (calls : List TransferCall) :
    (∀ front, front <+: calls → ClosedWhenDone (run serveTransfer db front)) ↔
      Along serveTransfer (fun db call => ¬ CompletesUnseen db call) db calls := by
  have hframe : ∀ db call, Owned db → Owned (serveTransfer db call) :=
    fun db call howned => howned.serve
  have hstep : ∀ db call, Owned db → ClosedWhenDone db →
      (ClosedWhenDone (serveTransfer db call) ↔ ¬ CompletesUnseen db call) :=
    fun db call howned hclosed => serveTransfer_closed call howned hclosed
  apply always_iff_along hframe hstep calls hnone.owned
  intro header hheader
  rw [hnone.1] at hheader
  cases hheader

/-- Picked, submitted and approved whole. -/
def approvedWhole : List TransferRequest :=
  [SmallTransfer.transfer "TO-1" 3, .startToPicking 1,
    .confirmPick (SmallWarehouse.confirm 1 3), .submitPicks 1, .approve 1 1]

theorem closed_when_done_iff_approvedWhole : ClosedWhenDone (SmallTransfer.after approvedWhole) :=
  (closed_when_done_iff (by decide) (SmallTransfer.calls approvedWhole)).mpr (by decide) _
    (List.prefix_refl _)

/-- An order that finds nothing to commit, one whose only line is short-closed, and one
whose last submission is rejected stay open. -/
theorem done_left_open :
    ¬ ClosedWhenDone (SmallTransfer.after
        [SmallTransfer.transfer "TO-1" 10, SmallTransfer.transfer "TO-2" 3]) ∧
      ¬ ClosedWhenDone (SmallTransfer.after [SmallTransfer.transfer "TO-1" 3, .shortClose 1 1]) ∧
      ¬ ClosedWhenDone (SmallTransfer.after
        [SmallTransfer.transfer "TO-1" 3, .startToPicking 1,
          .confirmPick (SmallWarehouse.confirm 1 2), .submitPicks 1, .shortClose 1 1,
          .reject 1 1]) := by
  decide

end SentryWms.TransferOrders

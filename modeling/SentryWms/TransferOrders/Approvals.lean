import Mathlib.Data.List.Dedup
import SentryWms.TransferOrders.Tables

/-!
# Approvals against picks

A submission snapshots every unit that is picked and not approved, pending
snapshots included.  As long as each submission finds no pending snapshot of a
line it lists, what is approved and what waits for approval never exceed the
picks of a line, so every pending approval passes the check of the line table.
-/

namespace SentryWms.TransferOrders

open Relational Inventory Picking

/-! ## Units in snapshots -/

/-- The units of a line in a snapshot. -/
def unitsIn (toLineId : ℕ) (snapshot : List (ℕ × ℕ × ℤ)) : ℤ :=
  (snapshot.map fun entry => if entry.1 = toLineId then entry.2.2 else 0).sum

/-- The units of a line in the snapshots of the approvals with one status. -/
def snapshotUnits (db : Db) (status : ApprovalStatus) (toLineId : ℕ) : ℤ :=
  db.transferOrderApprovals.sum fun approval =>
    if approval.status = status then unitsIn toLineId approval.linesSnapshot
    else 0

def pendingUnits (db : Db) (toLineId : ℕ) : ℤ := snapshotUnits db .approvalPending toLineId

def approvedUnits (db : Db) (toLineId : ℕ) : ℤ := snapshotUnits db .approvalApproved toLineId

@[simp]
theorem unitsIn_nil (toLineId : ℕ) : unitsIn toLineId [] = 0 := rfl

@[simp]
theorem unitsIn_cons (toLineId : ℕ) (entry : ℕ × ℕ × ℤ) (rest : List (ℕ × ℕ × ℤ)) :
    unitsIn toLineId (entry :: rest) =
      (if entry.1 = toLineId then entry.2.2 else 0) + unitsIn toLineId rest := by
  simp [unitsIn]

variable {toLineId toId toApprovalId : ℕ} {db db' : Db} {username : String}
  {header : TransferOrder} {approval : TransferOrderApproval}

theorem unitsIn_perm {left right : List (ℕ × ℕ × ℤ)} (hperm : left.Perm right) :
    unitsIn toLineId left = unitsIn toLineId right :=
  (hperm.map _).sum_eq

variable {snapshot : List (ℕ × ℕ × ℤ)} {line : TransferOrderLine} {ctx : RequestContext}
  {moved : Db} {answer : ApprovalStatus} {approvedBy : Option String}

theorem unitsIn_nonneg (hpositive : ∀ entry ∈ snapshot, 0 < entry.2.2) :
    0 ≤ unitsIn toLineId snapshot := by
  apply List.sum_nonneg
  intro units hunits
  obtain ⟨entry, hentry, rfl⟩ := List.mem_map.mp hunits
  split
  · exact (hpositive entry hentry).le
  · exact le_rfl

/-- A line a snapshot does not list has no units in it. -/
theorem unitsIn_eq_zero (hother : ∀ entry ∈ snapshot, entry.1 ≠ toLineId) :
    unitsIn toLineId snapshot = 0 := by
  induction snapshot with
  | nil => rfl
  | cons entry rest ih =>
      rw [unitsIn_cons, if_neg (hother entry List.mem_cons_self), zero_add]
      exact ih fun next hnext => hother next (List.mem_cons_of_mem _ hnext)

theorem snapshotUnits_congr {left right : Db}
    (happrovals : left.transferOrderApprovals = right.transferOrderApprovals)
    (status : ApprovalStatus) (toLineId : ℕ) :
    snapshotUnits left status toLineId = snapshotUnits right status toLineId := by
  rw [snapshotUnits, happrovals, snapshotUnits]

theorem mem_unsubmittedLines :
    line ∈ unsubmittedLines db toId ↔
      line ∈ db.transferOrderLines.rows ∧ line.toId = toId ∧
        line.approvedQty < line.pickedQty := by
  simp [unsubmittedLines, mem_orderBy, Table.select, List.mem_filter]

/-- The snapshot of a submission. -/
def snapshotOf (db : Db) (toId : ℕ) : List (ℕ × ℕ × ℤ) :=
  (unsubmittedLines db toId).map fun line =>
    (line.toLineId, line.itemId, line.pickedQty - line.approvedQty)

/-- A submission snapshots all a line of its order has picked and not approved. -/
theorem unitsIn_snapshotOf (hline : line ∈ db.transferOrderLines.rows) (toId : ℕ) :
    unitsIn line.toLineId (snapshotOf db toId) =
      if line.toId = toId ∧ line.approvedQty < line.pickedQty then
        line.pickedQty - line.approvedQty
      else 0 := by
  have hperm : (snapshotOf db toId).Perm
      ((db.transferOrderLines.select fun row =>
        row.toId = toId ∧ row.approvedQty < row.pickedQty).map fun row =>
          (row.toLineId, row.itemId, row.pickedQty - row.approvedQty)) :=
    (orderBy_perm _ _).map _
  have hfind := Table.find?_eq_some_iff.mpr ⟨hline, rfl⟩
  calc
    unitsIn line.toLineId (snapshotOf db toId) =
        ((db.transferOrderLines.select fun row =>
          row.toId = toId ∧ row.approvedQty < row.pickedQty).map fun row =>
            if row.toLineId = line.toLineId then row.pickedQty - row.approvedQty
            else 0).sum := by
          rw [unitsIn_perm hperm, unitsIn, List.map_map]
          rfl
    _ = db.transferOrderLines.sum fun row =>
          if row.toLineId = line.toLineId then
            if row.toId = toId ∧ row.approvedQty < row.pickedQty then
              row.pickedQty - row.approvedQty
            else 0
          else 0 := by
          rw [Table.sum_select]
          refine Table.sum_congr _ fun row _ => ?_
          by_cases hkey : row.toLineId = line.toLineId <;> simp [hkey]
    _ = _ := by rw [Table.sum_at_key, hfind, Option.elim_some]

/-! ## The ledger of approvals -/

/-- What a line has approved is what approved snapshots list, and together with
the pending snapshots it does not exceed the picks.  Snapshots list units of known
lines. -/
structure ApprovalLedger (db : Db) : Prop where
  fits : ∀ line ∈ db.transferOrderLines.rows,
    line.approvedQty + pendingUnits db line.toLineId ≤ line.pickedQty
  approved : ∀ line ∈ db.transferOrderLines.rows, line.approvedQty = approvedUnits db line.toLineId
  positive : ∀ approval ∈ db.transferOrderApprovals.rows,
    ∀ entry ∈ approval.linesSnapshot, 0 < entry.2.2
  known : ∀ approval ∈ db.transferOrderApprovals.rows,
    ∀ entry ∈ approval.linesSnapshot, entry.1 < db.transferOrderLines.nextKey

/-- No transfer order, line or approval is stored. -/
def NoTransfers (db : Db) : Prop :=
  db.transferOrders.rows = [] ∧ db.transferOrderLines.rows = [] ∧
    db.transferOrderApprovals.rows = []

instance (db : Db) : Decidable (NoTransfers db) := inferInstanceAs (Decidable (_ ∧ _))

theorem NoTransfers.ledger (hnone : NoTransfers db) :
    ApprovalLedger db where
  fits := by simp [hnone.2.1]
  approved := by simp [hnone.2.1]
  positive := by simp [hnone.2.2]
  known := by simp [hnone.2.2]

/-- A line no snapshot lists has no units in any. -/
theorem ApprovalLedger.snapshotUnits_fresh (hledger : ApprovalLedger db)
    (hfresh : db.transferOrderLines.nextKey ≤ toLineId) (status : ApprovalStatus) :
    snapshotUnits db status toLineId = 0 := by
  apply Table.sum_eq_zero
  intro approval happroval
  split
  · apply unitsIn_eq_zero
    intro entry hentry hsame
    have := hledger.known approval happroval entry hentry
    omega
  · rfl

/-- Only the fields the ledger reads matter. -/
theorem ApprovalLedger.of_lines (hledger : ApprovalLedger db)
    (happrovals : db'.transferOrderApprovals = db.transferOrderApprovals)
    (hnext : db.transferOrderLines.nextKey ≤ db'.transferOrderLines.nextKey)
    (hlines : ∀ line ∈ db'.transferOrderLines.rows,
      (∃ old ∈ db.transferOrderLines.rows, old.toLineId = line.toLineId ∧
        old.approvedQty = line.approvedQty ∧ old.pickedQty ≤ line.pickedQty) ∨
      (db.transferOrderLines.nextKey ≤ line.toLineId ∧ line.approvedQty = 0 ∧
        line.pickedQty = 0)) : ApprovalLedger db' where
  fits := by
    intro line hline
    rw [pendingUnits, snapshotUnits_congr happrovals]
    cases hlines line hline with
    | inl hold =>
        obtain ⟨old, hmem, hkey, happroved, hpicked⟩ := hold
        have hfits := hledger.fits old hmem
        rw [hkey, happroved] at hfits
        exact hfits.trans hpicked
    | inr hfresh =>
        obtain ⟨hkey, happroved, hpicked⟩ := hfresh
        rw [hledger.snapshotUnits_fresh hkey, happroved, hpicked, add_zero]
  approved := by
    intro line hline
    rw [approvedUnits, snapshotUnits_congr happrovals]
    cases hlines line hline with
    | inl hold =>
        obtain ⟨old, hmem, hkey, happroved, -⟩ := hold
        rw [← happroved, ← hkey]
        exact hledger.approved old hmem
    | inr hfresh =>
        rw [hledger.snapshotUnits_fresh hfresh.1, hfresh.2.1]
  positive := by
    rw [happrovals]
    exact hledger.positive
  known := by
    rw [happrovals]
    intro approval happroval entry hentry
    exact (hledger.known approval happroval entry hentry).trans_le hnext

theorem ApprovalLedger.same (hledger : ApprovalLedger db)
    (hsame : SameTransfers db db') : ApprovalLedger db' := by
  refine hledger.of_lines hsame.approvals (by rw [hsame.lines]) fun line hline =>
    Or.inl ⟨line, hsame.lines ▸ hline, rfl, rfl, le_rfl⟩

/-! ## Submissions -/

/-- The order takes submissions. -/
def submissible (db : Db) (toId : ℕ) : Bool :=
  match db.transferOrders.find? toId with
  | none => false
  | some header =>
      header.status = .toPartiallyPicked ∨ header.status = .toAwaitingApproval

/-- A submission of the order would find no pending snapshot of a line it lists. -/
def SubmitsAnew (db : Db) (toId : ℕ) : Prop :=
  submissible db toId → ∀ line ∈ unsubmittedLines db toId, pendingUnits db line.toLineId = 0

instance (db : Db) (toId : ℕ) : Decidable (SubmitsAnew db toId) :=
  inferInstanceAs (Decidable (_ → _))

theorem Submitted.submissible (hsubmitted : Submitted db toId username db') :
    submissible db toId = true := by
  obtain ⟨header, hheader, hstatus⟩ := hsubmitted.header
  simp [TransferOrders.submissible, hheader, hstatus]

/-- A submission adds its snapshot to the pending units. -/
theorem Submitted.pendingUnits (hsubmitted : Submitted db toId username db') (toLineId : ℕ) :
    pendingUnits db' toLineId =
      pendingUnits db toLineId + unitsIn toLineId (snapshotOf db toId) := by
  rw [TransferOrders.pendingUnits, TransferOrders.pendingUnits, snapshotUnits,
    hsubmitted.approvals, Table.sum_insert]
  rfl

theorem Submitted.approvedUnits (hsubmitted : Submitted db toId username db')
    (toLineId : ℕ) : approvedUnits db' toLineId = approvedUnits db toLineId := by
  rw [TransferOrders.approvedUnits, TransferOrders.approvedUnits, snapshotUnits,
    hsubmitted.approvals, Table.sum_insert]
  exact add_zero _

theorem ApprovalLedger.submit (hledger : ApprovalLedger db)
    (hsubmitted : Submitted db toId username db') (hanew : SubmitsAnew db toId) :
    ApprovalLedger db' where
  fits := by
    intro line hline
    rw [hsubmitted.lines] at hline
    rw [hsubmitted.pendingUnits, unitsIn_snapshotOf hline]
    split
    · rename_i hlisted
      rw [hanew hsubmitted.submissible line (mem_unsubmittedLines.mpr ⟨hline, hlisted⟩)]
      omega
    · rw [add_zero]
      exact hledger.fits line hline
  approved := by
    intro line hline
    rw [hsubmitted.lines] at hline
    rw [hsubmitted.approvedUnits]
    exact hledger.approved line hline
  positive := by
    rw [hsubmitted.approvals]
    intro approval happroval entry hentry
    cases List.mem_append.mp happroval with
    | inl hold => exact hledger.positive approval hold entry hentry
    | inr hnew =>
        rw [List.mem_singleton.mp hnew] at hentry
        obtain ⟨line, hline, rfl⟩ := List.mem_map.mp hentry
        exact sub_pos.mpr (mem_unsubmittedLines.mp hline).2.2
  known := by
    rw [hsubmitted.approvals, hsubmitted.lines]
    intro approval happroval entry hentry
    cases List.mem_append.mp happroval with
    | inl hold => exact hledger.known approval hold entry hentry
    | inr hnew =>
        rw [List.mem_singleton.mp hnew] at hentry
        obtain ⟨line, hline, rfl⟩ := List.mem_map.mp hentry
        exact db.transferOrderLines.keys_lt line (mem_unsubmittedLines.mp hline).1

/-- Submitting one order leaves the test for another as it was. -/
theorem submitsAnew_submitPicks {other : ℕ} (hother : other ≠ toId) :
    SubmitsAnew (submitPicks db toId username) other ↔ SubmitsAnew db other := by
  cases submitPicks_cases db toId username with
  | inl hsame => rw [hsame]
  | inr hsubmitted =>
      have hheader : submissible (submitPicks db toId username) other =
          submissible db other := by
        unfold submissible
        rw [hsubmitted.orders, Table.find?_updateKey, if_neg hother]
      have hlines : unsubmittedLines (submitPicks db toId username) other =
          unsubmittedLines db other := by
        unfold unsubmittedLines
        rw [hsubmitted.lines]
      unfold SubmitsAnew
      rw [hheader, hlines]
      have hunits : ∀ line ∈ unsubmittedLines db other,
          pendingUnits (submitPicks db toId username) line.toLineId =
            pendingUnits db line.toLineId := by
        intro line hline
        obtain ⟨hstored, horder, -⟩ := mem_unsubmittedLines.mp hline
        rw [hsubmitted.pendingUnits, unitsIn_snapshotOf hstored,
          if_neg (fun hlisted => hother (horder.symm.trans hlisted.1)), add_zero]
      constructor
      · intro hanew hsubmissible line hline
        rw [← hunits line hline]
        exact hanew hsubmissible line hline
      · intro hanew hsubmissible line hline
        rw [hunits line hline]
        exact hanew hsubmissible line hline

theorem ApprovalLedger.submitAll {toIds : List ℕ} (hledger : ApprovalLedger db)
    (hdistinct : toIds.Nodup) (hanew : ∀ toId ∈ toIds, SubmitsAnew db toId) :
    ApprovalLedger (run (fun db toId => submitPicks db toId username) db toIds) := by
  induction toIds generalizing db with
  | nil => exact hledger
  | cons toId rest ih =>
      obtain ⟨hfresh, hrest⟩ := List.nodup_cons.mp hdistinct
      have hstep : ApprovalLedger (submitPicks db toId username) := by
        cases submitPicks_cases db toId username with
        | inl hsame => rwa [hsame]
        | inr hsubmitted =>
            exact hledger.submit hsubmitted (hanew toId List.mem_cons_self)
      refine ih hstep hrest fun other hother => ?_
      have hne : other ≠ toId := fun hsame => hfresh (hsame ▸ hother)
      rw [submitsAnew_submitPicks hne]
      exact hanew other (List.mem_cons_of_mem _ hother)

/-! ## Answers -/

/-- The entries of a snapshot, moved one after the other, credit each line with its
units. -/
theorem Approved.credited (hledger : ApprovalLedger db)
    (happroved : Approved ctx toId toApprovalId header approval db moved db') :
    db'.transferOrderLines.nextKey = db.transferOrderLines.nextKey ∧
      ∀ line ∈ db'.transferOrderLines.rows, ∃ old ∈ db.transferOrderLines.rows,
        old.toLineId = line.toLineId ∧ old.pickedQty = line.pickedQty ∧
        line.approvedQty =
          old.approvedQty + unitsIn line.toLineId approval.linesSnapshot := by
  have hpositive : ∀ entry ∈ snapshotEntries approval, 0 < entry.2.2 :=
    fun entry hentry => hledger.positive approval (Table.find?_mem happroved.found)
      entry (mem_orderBy.mp hentry)
  have hperm : (snapshotEntries approval).Perm approval.linesSnapshot := orderBy_perm _ _
  have hwalk := moveEntries_induct (fun entries state => (∀ entry ∈ entries, 0 < entry.2.2) ∧
      state.transferOrderLines.nextKey = db.transferOrderLines.nextKey ∧
      ∀ line ∈ state.transferOrderLines.rows, ∃ old ∈ db.transferOrderLines.rows,
        old.toLineId = line.toLineId ∧ old.pickedQty = line.pickedQty ∧
        line.approvedQty + unitsIn line.toLineId entries =
          old.approvedQty + unitsIn line.toLineId (snapshotEntries approval))
    (by
      intro entry rest state hnonpos hstate
      exact absurd hnonpos (not_le.mpr (hstate.1 entry List.mem_cons_self)))
    (by
      intro entry rest state next hunits hstate
      obtain ⟨hrest, hnext, hlines⟩ := hstate
      refine ⟨fun other hother => hrest other (List.mem_cons_of_mem _ hother),
        by rw [hunits.lines]; exact hnext, fun line hline => ?_⟩
      rw [hunits.lines] at hline
      obtain ⟨row, hrow, rfl⟩ := Table.exists_of_mem_updateKey hline
      obtain ⟨old, hold, hkey, hpicked, happroved⟩ := hlines row hrow
      rw [unitsIn_cons] at happroved
      by_cases hhere : row.toLineId = entry.1
      · rw [if_pos hhere.symm] at happroved
        refine ⟨old, hold, ?_⟩
        simp only [if_pos hhere, addApproved]
        exact ⟨hkey, hpicked, by omega⟩
      · rw [if_neg fun h => hhere h.symm, zero_add] at happroved
        refine ⟨old, hold, ?_⟩
        simp only [if_neg hhere]
        exact ⟨hkey, hpicked, happroved⟩)
    happroved.moves
    ⟨hpositive, rfl, fun line hline => ⟨line, hline, rfl, rfl, rfl⟩⟩
  obtain ⟨-, hnext, hlines⟩ := hwalk
  rw [happroved.lines]
  refine ⟨hnext, fun line hline => ?_⟩
  obtain ⟨old, hold, hkey, hpicked, hunits⟩ := hlines line hline
  rw [unitsIn_nil, add_zero, unitsIn_perm hperm] at hunits
  exact ⟨old, hold, hkey, hpicked, hunits⟩

/-- An answer moves the units of its snapshot from one status to the other. -/
theorem snapshotUnits_answer (hfound : db.transferOrderApprovals.find? toApprovalId = some approval)
    (hpending : approval.status = .approvalPending)
    (happrovals : db'.transferOrderApprovals =
      db.transferOrderApprovals.updateKey toApprovalId fun row =>
        { row with status := answer, approvedBy := approvedBy })
    (status : ApprovalStatus) (toLineId : ℕ) :
    snapshotUnits db' status toLineId = snapshotUnits db status toLineId +
      ((if answer = status then unitsIn toLineId approval.linesSnapshot else 0) -
        if .approvalPending = status then
          unitsIn toLineId approval.linesSnapshot
        else 0) := by
  rw [snapshotUnits, snapshotUnits, happrovals, Table.sum_updateKey, hfound,
    Option.elim_some, hpending]

/-- The snapshots and the lines they name survive an answer. -/
theorem ApprovalLedger.answered (hledger : ApprovalLedger db)
    (happrovals : db'.transferOrderApprovals =
      db.transferOrderApprovals.updateKey toApprovalId fun row =>
        { row with status := answer, approvedBy := approvedBy })
    (hnext : db'.transferOrderLines.nextKey = db.transferOrderLines.nextKey) :
    ∀ approval ∈ db'.transferOrderApprovals.rows,
      ∀ entry ∈ approval.linesSnapshot,
        0 < entry.2.2 ∧ entry.1 < db'.transferOrderLines.nextKey := by
  rw [happrovals, hnext]
  intro approval happroval entry hentry
  obtain ⟨old, hold, rfl⟩ := Table.exists_of_mem_updateKey happroval
  have hlisted : entry ∈ old.linesSnapshot := by
    split at hentry <;> exact hentry
  exact ⟨hledger.positive old hold entry hlisted, hledger.known old hold entry hlisted⟩

theorem ApprovalLedger.approve (hledger : ApprovalLedger db)
    (happroved : Approved ctx toId toApprovalId header approval db moved db') :
    ApprovalLedger db' := by
  obtain ⟨hnext, hlines⟩ := happroved.credited hledger
  have hunits := snapshotUnits_answer happroved.found happroved.pending happroved.approvals
  have hentries := hledger.answered happroved.approvals hnext
  refine
    { fits := fun line hline => ?_
      approved := fun line hline => ?_
      positive := fun approval happroval entry hentry =>
        (hentries approval happroval entry hentry).1
      known := fun approval happroval entry hentry => (hentries approval happroval entry hentry).2 }
  · obtain ⟨old, hold, hkey, hpicked, hcredited⟩ := hlines line hline
    have hfits := hledger.fits old hold
    rw [hkey, hpicked] at hfits
    rw [pendingUnits, hunits, if_neg (by decide), if_pos rfl]
    rw [pendingUnits] at hfits
    linarith
  · obtain ⟨old, hold, hkey, -, hcredited⟩ := hlines line hline
    have hcount := hledger.approved old hold
    rw [hkey] at hcount
    rw [approvedUnits, hunits, if_pos rfl, if_neg (by decide)]
    rw [approvedUnits] at hcount
    linarith

theorem ApprovalLedger.reject (hledger : ApprovalLedger db)
    (hrejected : Rejected toId toApprovalId db db') : ApprovalLedger db' := by
  obtain ⟨approval, hfound, -, hpending⟩ := hrejected.found
  obtain ⟨approvedBy, happrovals⟩ := hrejected.approvals
  have hunits := snapshotUnits_answer hfound hpending happrovals
  have hentries := hledger.answered happrovals (by rw [hrejected.lines])
  have hlisted : ∀ toLineId, 0 ≤ unitsIn toLineId approval.linesSnapshot :=
    fun _ => unitsIn_nonneg (hledger.positive approval (Table.find?_mem hfound))
  refine
    { fits := fun line hline => ?_
      approved := fun line hline => ?_
      positive := fun approval happroval entry hentry =>
        (hentries approval happroval entry hentry).1
      known := fun approval happroval entry hentry => (hentries approval happroval entry hentry).2 }
  · rw [hrejected.lines] at hline
    have hfits := hledger.fits line hline
    rw [pendingUnits, hunits, if_neg (by decide), if_pos rfl]
    rw [pendingUnits] at hfits
    have := hlisted line.toLineId
    linarith
  · rw [hrejected.lines] at hline
    rw [approvedUnits, hunits, if_neg (by decide), if_neg (by decide), sub_self, add_zero]
    exact hledger.approved line hline

/-! ## All requests -/

/-- Every submission the request makes finds no pending snapshot of a line it
lists. -/
def SubmissionsAnew (db : Db) (call : TransferCall) : Prop :=
  match call.request with
  | .submitPicks toId => SubmitsAnew db toId
  | .completeBatch batchId =>
      (completeBatch call.ctx db batchId).isOk →
        ∀ toId ∈ transferOrdersOf db batchId, SubmitsAnew db toId
  | _ => True

instance (db : Db) (call : TransferCall) : Decidable (SubmissionsAnew db call) := by
  obtain ⟨ctx, request⟩ := call
  cases request <;> unfold SubmissionsAnew <;> infer_instance

theorem transferOrdersOf_nodup (db : Db) (batchId : ℕ) : (transferOrdersOf db batchId).Nodup :=
  List.nodup_dedup _

/-- A request keeps the ledger of approvals. -/
theorem ApprovalLedger.serve {call : TransferCall} (hledger : ApprovalLedger db)
    (hanew : SubmissionsAnew db call) : ApprovalLedger (serveTransfer db call) := by
  obtain ⟨ctx, request⟩ := call
  have hwrites := serveTransfer_writes ctx request db
  generalize serveTransfer db ⟨ctx, request⟩ = db' at hwrites ⊢
  cases hwrites with
  | nothing hsame => exact hledger.same hsame
  | imports hserved =>
      have himported := importTransferOrder_imported hserved
      obtain ⟨header, rows, reserved, committed, added, -, -, -, -, -, hlines, -,
        hadded⟩ := himported.written
      refine hledger.of_lines himported.approvals himported.linesNext
        fun line hline => ?_
      rw [hlines] at hline
      cases List.mem_append.mp hline with
      | inl hold => exact Or.inl ⟨line, hold, rfl, rfl, le_rfl⟩
      | inr hnew =>
          obtain ⟨hkey, -, hpicked, happroved, -⟩ := hadded line hnew
          exact Or.inr ⟨hkey, happroved, hpicked⟩
  | picks hpicked =>
      refine hledger.of_lines hpicked.approvals (by rw [hpicked.lines]; rfl)
        fun line hline => Or.inl ?_
      rw [hpicked.lines] at hline
      obtain ⟨row, hrow, rfl⟩ := Table.exists_of_mem_updateKey hline
      have hpositive := hpicked.positive
      refine ⟨row, hrow, ?_⟩
      split
      · exact ⟨rfl, rfl, by dsimp only; omega⟩
      · exact ⟨rfl, rfl, le_rfl⟩
  | submits toId =>
      have hall : ∀ other ∈ [toId], SubmitsAnew db other := by
        intro other hother
        rw [List.mem_singleton.mp hother]
        exact hanew
      exact hledger.submitAll (List.nodup_singleton toId) hall
  | completes hserved =>
      have hall := hanew (by rw [hserved]; rfl)
      exact (hledger.submitAll (transferOrdersOf_nodup db _) hall).same
        (completeBatch_transfers hserved)
  | approves _ happroved => exact hledger.approve happroved
  | rejects hrejected => exact hledger.reject hrejected
  | cancels hcancelled =>
      exact hledger.of_lines hcancelled.approvals (by rw [hcancelled.lines])
        fun line hline => Or.inl ⟨line, hcancelled.lines ▸ hline, rfl, rfl, le_rfl⟩
  | deletes hdeleted =>
      refine hledger.of_lines hdeleted.approvals (by rw [hdeleted.lines]; rfl)
        fun line hline => Or.inl ⟨line, ?_, rfl, rfl, le_rfl⟩
      rw [hdeleted.lines] at hline
      exact List.mem_of_mem_filter hline
  | closes hclosed =>
      refine hledger.of_lines hclosed.approvals (by rw [hclosed.lines]; rfl)
        fun line hline => Or.inl ?_
      rw [hclosed.lines] at hline
      obtain ⟨row, hrow, rfl⟩ := Table.exists_of_mem_updateKey hline
      refine ⟨row, hrow, ?_⟩
      split <;> exact ⟨rfl, rfl, le_rfl⟩

/-- Entries that fit the picks of their lines pass the check of the line table. -/
theorem moveEntries_passes {now : ℕ} {entries : List (ℕ × ℕ × ℤ)}
    (hpositive : ∀ entry ∈ entries, 0 < entry.2.2)
    (hfits : ∀ line ∈ db.transferOrderLines.rows,
      line.approvedQty + unitsIn line.toLineId entries ≤ line.pickedQty)
    (relation : String) :
    moveEntries now header entries db ≠ .error (.integrityError relation) := by
  induction entries generalizing db with
  | nil => exact pure_ne_error
  | cons entry rest ih =>
      have hrestpos : ∀ other ∈ rest, 0 < other.2.2 :=
        fun other hother => hpositive other (List.mem_cons_of_mem _ hother)
      have hentry := hpositive entry List.mem_cons_self
      intro hrefused
      cases bind_eq_error.mp hrefused with
      | inl hone =>
          rw [moveEntry, if_neg (not_le.mpr hentry)] at hone
          simp only [approveLine, decrementSourceInventory,
            creditDestinationInventory, bind_eq_error, require_eq_error,
            orThrow_eq_error, pure_ne_error, reduceCtorEq, and_false, or_false,
            exists_false] at hone
          apply hone.1
          intro line hline hkey
          have hline := hfits line hline
          rw [unitsIn_cons, if_pos hkey.symm] at hline
          have hlater : 0 ≤ unitsIn line.toLineId rest := unitsIn_nonneg hrestpos
          omega
      | inr hlater =>
          obtain ⟨middle, hmoved, hrest⟩ := hlater
          refine ih hrestpos (fun line hline => ?_) hrest
          cases moveEntry_cases hmoved with
          | inl hnothing => exact absurd hnothing.1 (not_le.mpr hentry)
          | inr hunits =>
              rw [hunits.lines] at hline
              obtain ⟨row, hrow, rfl⟩ := Table.exists_of_mem_updateKey hline
              have hrow := hfits row hrow
              rw [unitsIn_cons] at hrow
              by_cases hhere : row.toLineId = entry.1
              · rw [if_pos hhere.symm] at hrow
                simp only [if_pos hhere, addApproved]
                omega
              · rw [if_neg fun h => hhere h.symm, zero_add] at hrow
                simpa only [if_neg hhere] using hrow

/-- In a state of the ledger no pending approval fails the check of the line
table. -/
theorem ApprovalLedger.passes (hledger : ApprovalLedger db) (ctx : RequestContext)
    (toId toApprovalId : ℕ) (relation : String) :
    approveTransferOrderApproval ctx db toId toApprovalId ≠
      .error (.integrityError relation) := by
  intro hrefused
  simp only [approveTransferOrderApproval, loadPendingApproval,
    orApprovalFailed_eq_integrityError, approvalNotPending, selfApproval, emptySnapshot,
    bind_eq_error, bind_eq_ok, require_eq_error, orThrow_eq_error, orThrow_eq_ok, require_eq_ok,
    pure_eq_ok, pure_ne_error, reduceCtorEq, and_false, or_false, false_or,
    exists_false, Option.filter_eq_some_iff, decide_eq_true_eq] at hrefused
  obtain ⟨approval, ⟨found, ⟨hfound, -⟩, -, hpending, rfl⟩, -, -, header, -, -, -,
    hmoves⟩ := hrefused
  have hstored := Table.find?_mem hfound
  have hentries : ∀ entry ∈ snapshotEntries found, 0 < entry.2.2 :=
    fun entry hentry => hledger.positive found hstored entry (mem_orderBy.mp hentry)
  refine moveEntries_passes hentries (fun line hline => ?_) relation hmoves
  have hfits := hledger.fits line hline
  have hcounted : unitsIn line.toLineId (snapshotEntries found) ≤
      pendingUnits db line.toLineId := by
    have hperm : (snapshotEntries found).Perm found.linesSnapshot := orderBy_perm _ _
    rw [unitsIn_perm hperm]
    have hall : ∀ approval ∈ db.transferOrderApprovals.rows,
        (if approval.toApprovalId = found.toApprovalId then
          unitsIn line.toLineId found.linesSnapshot else 0) ≤
        if approval.status = .approvalPending then
          unitsIn line.toLineId approval.linesSnapshot else 0 := by
      intro approval happroval
      have hnonneg : 0 ≤ unitsIn line.toLineId approval.linesSnapshot :=
        unitsIn_nonneg (hledger.positive approval happroval)
      by_cases hsame : approval.toApprovalId = found.toApprovalId
      · have hrow : approval = found :=
          List.inj_on_of_nodup_map db.transferOrderApprovals.keys_nodup happroval hstored hsame
        rw [if_pos hsame, hrow, if_pos hpending]
      · rw [if_neg hsame]
        split
        · exact hnonneg
        · exact le_rfl
    calc
      unitsIn line.toLineId found.linesSnapshot =
          db.transferOrderApprovals.sum fun approval =>
            if approval.toApprovalId = found.toApprovalId then
              unitsIn line.toLineId found.linesSnapshot else 0 := by
            rw [Table.sum_at_key db.transferOrderApprovals found.toApprovalId
              fun _ => unitsIn line.toLineId found.linesSnapshot,
              Table.find?_eq_some_iff.mpr ⟨hstored, rfl⟩, Option.elim_some]
      _ ≤ pendingUnits db line.toLineId := List.sum_le_sum hall
  omega

/-- From a database without transfer orders, in every run whose submissions find
no pending snapshot of a line they list: what a line has approved is what its
approved snapshots list, together with the pending ones it does not exceed the
picks, and no approval fails the check of the line table. -/
theorem approvals_withinPicks {db : Db} {calls : List TransferCall} (hnone : NoTransfers db)
    (hanew : Along serveTransfer SubmissionsAnew db calls) :
    (∀ line ∈ (run serveTransfer db calls).transferOrderLines.rows,
      line.approvedQty = approvedUnits (run serveTransfer db calls) line.toLineId ∧
      line.approvedQty + pendingUnits (run serveTransfer db calls) line.toLineId ≤ line.pickedQty) ∧
    ∀ ctx toId toApprovalId relation,
      approveTransferOrderApproval ctx (run serveTransfer db calls) toId
        toApprovalId ≠ .error (.integrityError relation) := by
  have hledger : ApprovalLedger (run serveTransfer db calls) :=
    run_invariant (fun _ _ hledger hsafe => ApprovalLedger.serve hledger hsafe) hnone.ledger hanew
  exact ⟨fun line hline => ⟨hledger.approved line hline, hledger.fits line hline⟩, hledger.passes⟩

/-- Three units committed, two picked, submitted and approved. -/
def partlyApproved : List TransferRequest :=
  [SmallTransfer.transfer "TO-1" 3, .startToPicking 1,
    .confirmPick (SmallWarehouse.confirm 1 2), .submitPicks 1, .approve 1 1]

theorem approvals_withinPicks_partlyApproved :
    (∀ line ∈ (SmallTransfer.after partlyApproved).transferOrderLines.rows,
      line.approvedQty = approvedUnits (SmallTransfer.after partlyApproved) line.toLineId ∧
      line.approvedQty + pendingUnits (SmallTransfer.after partlyApproved) line.toLineId ≤
        line.pickedQty) ∧
    ∀ ctx toId toApprovalId relation,
      approveTransferOrderApproval ctx (SmallTransfer.after partlyApproved) toId
        toApprovalId ≠ .error (.integrityError relation) :=
  approvals_withinPicks (by decide) (by decide)

/-- Three picks submitted twice. -/
def submittedTwice : List TransferRequest :=
  [SmallTransfer.transfer "TO-1" 3, .startToPicking 1,
    .confirmPick (SmallWarehouse.confirm 1 3), .submitPicks 1, .submitPicks 1]

/-- Six units of the three picks wait for approval, and the second approval fails
the check of the line table once the first has passed. -/
theorem submitPicks_twice :
    ((SmallTransfer.after submittedTwice).transferOrderLines.rows.map fun line =>
      (line.pickedQty, line.approvedQty +
        pendingUnits (SmallTransfer.after submittedTwice) line.toLineId)) =
      [(3, 6)] ∧
    approveTransferOrderApproval (SmallWarehouse.pat 9)
        (SmallTransfer.after (submittedTwice ++ [.approve 1 1])) 1 2 =
      .error (.integrityError "transfer_order_lines_check") := by
  constructor
  · decide
  · rfl

end SentryWms.TransferOrders

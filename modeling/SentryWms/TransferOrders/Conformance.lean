import SentryWms.TransferOrders.Approvals

/-!
# Status changes against the transition tables

The writers of a status do not consult the tables.  Two of them go beyond the
tables by design: a pick that fills a pending line at once, and an approval that
closes its order directly.  Every other change of every request is an edge, apart
from what an approval does to a cancelled order or a short-closed line.
-/

namespace SentryWms.TransferOrders

open Relational Picking

/-! ## Changes of a status -/

def headerStatusOf (db : Db) (toId : ℕ) : Option TransferStatus :=
  (db.transferOrders.find? toId).map TransferOrder.status

def lineStatusOf (db : Db) (toLineId : ℕ) : Option TransferLineStatus :=
  (db.transferOrderLines.find? toLineId).map TransferOrderLine.status

def TransferRequest.approves : TransferRequest → Bool
  | .approve _ _ => true
  | _ => false

def TransferRequest.picks : TransferRequest → Bool
  | .confirmPick _ => true
  | _ => false

/-- A change of a header that a request may make. -/
def HeaderConforms (request : TransferRequest) (old new : TransferStatus) : Prop :=
  new = old ∨ new ∈ headerTransitions old ∨
    (request.approves ∧ (old = .toPartiallyPicked ∨ old = .toAwaitingApproval) ∧ new = .toClosed)

/-- A change of a line that a request may make. -/
def LineConforms (request : TransferRequest) (old new : TransferLineStatus) : Prop :=
  new = old ∨ new ∈ lineTransitions old ∨
    (request.picks ∧ old = .toLinePending ∧ new = .toLinePicked)

/-- What a request does to the statuses of the stored headers and lines.  Nothing
is said of an approval of a cancelled header or a short-closed line. -/
structure StatusesConform (request : TransferRequest) (before after : Db) :
    Prop where
  headers : ∀ toId old new, headerStatusOf before toId = some old →
    headerStatusOf after toId = some new →
    (request.approves → old ≠ .toCancelled) → HeaderConforms request old new
  lines : ∀ toLineId old new, lineStatusOf before toLineId = some old →
    lineStatusOf after toLineId = some new →
    (request.approves → old ≠ .toLineShortClosed) → LineConforms request old new

variable {request : TransferRequest} {before after db moved : Db}
  {toLineId toId toApprovalId : ℕ} {header : TransferOrder} {ctx : RequestContext}
  {approval : TransferOrderApproval}

theorem headers_unchanged (horders : after.transferOrders = before.transferOrders) :
    ∀ toId old new, headerStatusOf before toId = some old → headerStatusOf after toId = some new →
      (request.approves → old ≠ .toCancelled) →
      HeaderConforms request old new := by
  intro toId old new hold hnew _
  rw [headerStatusOf, horders] at hnew
  exact Or.inl (Option.some.inj (hnew.symm.trans hold))

theorem lines_unchanged (hlines : after.transferOrderLines = before.transferOrderLines) :
    ∀ toLineId old new, lineStatusOf before toLineId = some old →
      lineStatusOf after toLineId = some new →
      (request.approves → old ≠ .toLineShortClosed) →
      LineConforms request old new := by
  intro toLineId old new hold hnew _
  rw [lineStatusOf, hlines] at hnew
  exact Or.inl (Option.some.inj (hnew.symm.trans hold))

theorem SameTransfers.statusesConform (hsame : SameTransfers before after) :
    StatusesConform request before after :=
  ⟨headers_unchanged hsame.orders, lines_unchanged hsame.lines⟩

/-! ## What the statuses say -/

/-- A line that can be picked is not full, and an order with approvals is neither
open nor approved. -/
structure StatusLedger (db : Db) : Prop where
  unfilled : ∀ line ∈ db.transferOrderLines.rows, pickable line → line.pickedQty < line.committedQty
  known : ∀ approval ∈ db.transferOrderApprovals.rows, approval.toId < db.transferOrders.nextKey
  submitted : ∀ approval ∈ db.transferOrderApprovals.rows,
    ∀ header ∈ db.transferOrders.rows, header.toId = approval.toId →
      header.status ≠ .toOpen ∧ header.status ≠ .toApproved

theorem NoTransfers.statusLedger (hnone : NoTransfers db) :
    StatusLedger db where
  unfilled := by simp [hnone.2.1]
  known := by simp [hnone.2.2]
  submitted := by simp [hnone.2.2]

variable {db' : Db} {quantity : ℤ} {username : String} {call : TransferCall}

/-- A request that submits nothing keeps the ledger, if the lines it leaves
pickable are not full and the headers it leaves open or approved were so before or
are new. -/
theorem StatusLedger.of_rows (hledger : StatusLedger db)
    (hlines : ∀ line ∈ db'.transferOrderLines.rows, pickable line →
      line.pickedQty < line.committedQty)
    (hnext : db.transferOrders.nextKey ≤ db'.transferOrders.nextKey)
    (happrovals : ∀ approval ∈ db'.transferOrderApprovals.rows,
      ∃ old ∈ db.transferOrderApprovals.rows, old.toId = approval.toId)
    (hheaders : ∀ header ∈ db'.transferOrders.rows,
      (header.status ≠ .toOpen ∧ header.status ≠ .toApproved) ∨
      (∃ old ∈ db.transferOrders.rows, old.toId = header.toId ∧ old.status = header.status) ∨
      db.transferOrders.nextKey ≤ header.toId) : StatusLedger db' where
  unfilled := hlines
  known := by
    intro approval happroval
    obtain ⟨old, hold, hsame⟩ := happrovals approval happroval
    rw [← hsame]
    exact (hledger.known old hold).trans_le hnext
  submitted := by
    intro approval happroval header hheader horder
    obtain ⟨answered, hanswered, hsame⟩ := happrovals approval happroval
    rcases hheaders header hheader with hsettled | ⟨old, hold, hkey, hstatus⟩ | hnew
    · exact hsettled
    · rw [← hstatus]
      exact hledger.submitted answered hanswered old hold
        (hkey.trans (horder.trans hsame.symm))
    · have := hledger.known answered hanswered
      omega

theorem StatusLedger.same (hledger : StatusLedger db) (hsame : SameTransfers db db') :
    StatusLedger db' := by
  apply hledger.of_rows
  · rw [hsame.lines]
    exact hledger.unfilled
  · rw [hsame.orders]
  · rw [hsame.approvals]
    exact fun approval happroval => ⟨approval, happroval, rfl⟩
  · rw [hsame.orders]
    exact fun header hheader => Or.inr (Or.inl ⟨header, hheader, rfl, rfl⟩)

/-- The lines after an update that leaves no pickable line full. -/
theorem StatusLedger.unfilled_updateKey (hledger : StatusLedger db)
    {set : TransferOrderLine → TransferOrderLine}
    {hset : ∀ line, (set line).toLineId = line.toLineId}
    (hone : ∀ line ∈ db.transferOrderLines.rows, line.toLineId = toLineId →
      pickable (set line) → (set line).pickedQty < (set line).committedQty) :
    ∀ line ∈ (db.transferOrderLines.updateKey toLineId set hset).rows,
      pickable line → line.pickedQty < line.committedQty := by
  intro line hline hpickable
  obtain ⟨old, hold, rfl⟩ := Table.exists_of_mem_updateKey hline
  by_cases hkey : old.toLineId = toLineId
  · simp only [if_pos hkey] at hpickable ⊢
    exact hone old hold hkey hpickable
  · simp only [if_neg hkey] at hpickable ⊢
    exact hledger.unfilled old hold hpickable

/-- The headers after an update that leaves the rows it writes neither open nor
approved. -/
theorem headers_update {test : TransferOrder → Bool}
    {set : TransferOrder → TransferOrder}
    {hset : ∀ header, (set header).toId = header.toId}
    (hone : ∀ header, (set header).status ≠ .toOpen ∧ (set header).status ≠ .toApproved) :
    ∀ header ∈ (db.transferOrders.update test set hset).rows,
      (header.status ≠ .toOpen ∧ header.status ≠ .toApproved) ∨
      (∃ old ∈ db.transferOrders.rows, old.toId = header.toId ∧ old.status = header.status) ∨
      db.transferOrders.nextKey ≤ header.toId := by
  intro header hheader
  obtain ⟨old, hold, rfl⟩ := List.mem_map.mp hheader
  split
  · exact Or.inl (hone old)
  · exact Or.inr (Or.inl ⟨old, hold, rfl, rfl⟩)

/-! ## Imports and picks -/

section Requests

variable {db db' : Db}

theorem Imported.statusLedger {request : ImportRequest}
    (himported : Imported request db db') (hledger : StatusLedger db) :
    StatusLedger db' := by
  obtain ⟨header, rows, reserved, committed, added, hid, -, horders, -, -, hlines,
    -, hadded⟩ := himported.written
  apply hledger.of_rows
  · rw [hlines]
    intro line hline hpickable
    cases List.mem_append.mp hline with
    | inl hold => exact hledger.unfilled line hold hpickable
    | inr hnew =>
        obtain ⟨-, -, hpicked, -, hstatus⟩ := hadded line hnew
        rw [hpicked]
        by_contra hnothing
        rw [if_neg hnothing] at hstatus
        simp [pickable, hstatus] at hpickable
  · rw [himported.ordersNext]
    exact Nat.le_succ _
  · rw [himported.approvals]
    exact fun approval happroval => ⟨approval, happroval, rfl⟩
  · rw [horders]
    intro stored hstored
    cases List.mem_append.mp hstored with
    | inl hold => exact Or.inr (Or.inl ⟨stored, hold, rfl, rfl⟩)
    | inr hnew =>
        rw [List.mem_singleton.mp hnew, hid]
        exact Or.inr (Or.inr le_rfl)

theorem Imported.statusesConform {body : ImportRequest}
    (himported : Imported body db db') : StatusesConform request db db' := by
  obtain ⟨header, rows, reserved, committed, added, -, -, horders, -, -, hlines, -⟩ :=
    himported.written
  constructor
  · intro toId old new hold hnew _
    exact Or.inl (Table.view_append _ horders hold hnew)
  · intro toLineId old new hold hnew _
    exact Or.inl (Table.view_append _ hlines hold hnew)

theorem Picked.statusLedger (hpicked : Picked db toId toLineId quantity db')
    (hledger : StatusLedger db) : StatusLedger db' := by
  obtain ⟨found, hfound, -, hfits⟩ := hpicked.line
  apply hledger.of_rows
  · rw [hpicked.lines]
    apply hledger.unfilled_updateKey
    intro line hline hkey hpickable
    have hrow : line = found := Option.some.inj
      ((Table.find?_eq_some_iff.mpr ⟨hline, hkey⟩).symm.trans hfound)
    subst hrow
    dsimp only at hpickable ⊢
    by_contra hfull
    rw [if_pos (by omega)] at hpickable
    simp [pickable] at hpickable
  · rw [hpicked.orders]
    exact le_rfl
  · rw [hpicked.approvals]
    exact fun approval happroval => ⟨approval, happroval, rfl⟩
  · rw [hpicked.orders]
    exact headers_update fun header => ⟨by simp, by simp⟩

theorem Picked.statusesConform (hrequest : request.picks)
    (hpicked : Picked db toId toLineId quantity db') :
    StatusesConform request db db' := by
  obtain ⟨found, hfound, hpickable, -⟩ := hpicked.line
  constructor
  · intro other old new hold hnew _
    rw [headerStatusOf, hpicked.orders] at hnew
    cases Table.view_update _ hold hnew with
    | inl hsame => exact Or.inl hsame
    | inr hwritten =>
        obtain ⟨header, -, htest, rfl, rfl⟩ := hwritten
        have hopen : header.toId = toId ∧ header.status = .toOpen := by
          simpa using htest
        rw [hopen.2]
        exact Or.inr (Or.inl (by simp [headerTransitions]))
  · intro other old new hold hnew _
    rw [lineStatusOf, hpicked.lines] at hnew
    cases Table.view_updateKey _ hold hnew with
    | inl hsame => exact Or.inl hsame
    | inr hwritten =>
        obtain ⟨line, hline, hkey, rfl, rfl⟩ := hwritten
        rw [hkey, hfound, Option.some.injEq] at hline
        subst hline
        simp only [pickable, decide_eq_true_eq] at hpickable
        dsimp only
        cases hpickable with
        | inl hpending =>
            rw [hpending]
            split
            · exact Or.inr (Or.inr ⟨hrequest, rfl, rfl⟩)
            · exact Or.inr (Or.inl (by decide))
        | inr hpicking =>
            rw [hpicking]
            split
            · exact Or.inr (Or.inl (by decide))
            · exact Or.inl rfl

/-! ## Submissions -/

/-- The statuses submissions move between. -/
def submittable (status : TransferStatus) : Prop :=
  status = .toPartiallyPicked ∨ status = .toAwaitingApproval

theorem submittable_submittedStatus (db : Db) (toId : ℕ) :
    submittable (submittedStatus db toId) := by
  unfold submittedStatus
  split
  · exact Or.inr rfl
  · exact Or.inl rfl

theorem submittable.conforms {old new : TransferStatus} (hold : submittable old)
    (hnew : submittable new) : HeaderConforms request old new := by
  rcases hold with rfl | rfl <;> rcases hnew with rfl | rfl
  · exact Or.inl rfl
  · exact Or.inr (Or.inl (by decide))
  · exact Or.inr (Or.inl (by decide))
  · exact Or.inl rfl

theorem Submitted.statusLedger (hsubmitted : Submitted db toId username db')
    (hledger : StatusLedger db) : StatusLedger db' := by
  obtain ⟨found, hfound, hstatus⟩ := hsubmitted.header
  have hfoundkey : found.toId = toId := Table.find?_key hfound
  have hwritten : ∀ header ∈ db'.transferOrders.rows, ∃ old ∈ db.transferOrders.rows,
      old.toId = header.toId ∧
        ((header.toId = toId ∧ submittable header.status) ∨
          (header.toId ≠ toId ∧ header.status = old.status)) := by
    rw [hsubmitted.orders]
    intro header hheader
    obtain ⟨old, hold, rfl⟩ := Table.exists_of_mem_updateKey hheader
    refine ⟨old, hold, ?_⟩
    split
    · rename_i hkey
      exact ⟨rfl, Or.inl ⟨hkey, submittable_submittedStatus db toId⟩⟩
    · rename_i hkey
      exact ⟨rfl, Or.inr ⟨hkey, rfl⟩⟩
  refine
    { unfilled := ?_
      known := ?_
      submitted := ?_ }
  · rw [hsubmitted.lines]
    exact hledger.unfilled
  · rw [hsubmitted.approvals, hsubmitted.orders]
    intro approval happroval
    cases List.mem_append.mp happroval with
    | inl hold => exact hledger.known approval hold
    | inr hnew =>
        rw [List.mem_singleton.mp hnew, ← hfoundkey]
        exact db.transferOrders.keys_lt found (Table.find?_mem hfound)
  · rw [hsubmitted.approvals]
    intro approval happroval header hheader horder
    obtain ⟨old, hold, hkey, hcases⟩ := hwritten header hheader
    cases hcases with
    | inl hsubmits =>
        rcases hsubmits.2 with hpicking | hawaiting
        · simp [hpicking]
        · simp [hawaiting]
    | inr hother =>
        rw [hother.2]
        cases List.mem_append.mp happroval with
        | inl hstored =>
            exact hledger.submitted approval hstored old hold (hkey.trans horder)
        | inr hnew =>
            rw [List.mem_singleton.mp hnew] at horder
            exact absurd horder hother.1

/-- What submissions do to the headers: nothing, or they move one between the
statuses of submissions. -/
theorem run_submitPicks_status (db : Db) (toIds : List ℕ) (username : String) (toId : ℕ) :
    headerStatusOf (run (fun db toId => submitPicks db toId username) db toIds)
        toId = headerStatusOf db toId ∨
      ∃ old new, headerStatusOf db toId = some old ∧
        headerStatusOf (run (fun db toId => submitPicks db toId username) db toIds)
          toId = some new ∧ submittable old ∧ submittable new := by
  induction toIds generalizing db with
  | nil => exact Or.inl rfl
  | cons first rest ih =>
      have hfirst : headerStatusOf (submitPicks db first username) toId =
          headerStatusOf db toId ∨ ∃ old new, headerStatusOf db toId = some old ∧
            headerStatusOf (submitPicks db first username) toId = some new ∧
            submittable old ∧ submittable new := by
        cases submitPicks_cases db first username with
        | inl hsame => exact Or.inl (by rw [hsame])
        | inr hsubmitted =>
            obtain ⟨header, hheader, hstatus⟩ := hsubmitted.header
            simp only [headerStatusOf, hsubmitted.orders, Table.find?_updateKey]
            by_cases hkey : toId = first
            · subst hkey
              rw [if_pos rfl, hheader]
              exact Or.inr ⟨_, _, rfl, rfl, hstatus, submittable_submittedStatus db toId⟩
            · rw [if_neg hkey]
              exact Or.inl rfl
      have hrest := ih (submitPicks db first username)
      change headerStatusOf (run _ (submitPicks db first username) rest) toId = _ ∨ _
      cases hrest with
      | inl hsame =>
          cases hfirst with
          | inl hsame' => exact Or.inl (hsame.trans hsame')
          | inr hmoved =>
              obtain ⟨old, new, hold, hnew, hfrom, hto⟩ := hmoved
              exact Or.inr ⟨old, new, hold, hsame.trans hnew, hfrom, hto⟩
      | inr hmoved =>
          obtain ⟨middle, new, hmiddle, hnew, hfrom, hto⟩ := hmoved
          cases hfirst with
          | inl hsame =>
              exact Or.inr ⟨middle, new, hsame ▸ hmiddle, hnew, hfrom, hto⟩
          | inr hmoved' =>
              obtain ⟨old, -, hold, -, hfrom', -⟩ := hmoved'
              exact Or.inr ⟨old, new, hold, hnew, hfrom', hto⟩

theorem run_submitPicks_lines (db : Db) (toIds : List ℕ) (username : String) :
    (run (fun db toId => submitPicks db toId username) db
      toIds).transferOrderLines = db.transferOrderLines := by
  apply run_unchanged Db.transferOrderLines
  intro state toId
  cases submitPicks_cases state toId username with
  | inl hsame => rw [hsame]
  | inr hsubmitted => exact hsubmitted.lines

theorem statusLedger_submitAll (hledger : StatusLedger db) (toIds : List ℕ) :
    StatusLedger (run (fun db toId => submitPicks db toId username) db toIds) := by
  induction toIds generalizing db with
  | nil => exact hledger
  | cons toId rest ih =>
      have hstep : StatusLedger (submitPicks db toId username) := by
        cases submitPicks_cases db toId username with
        | inl hsame => rwa [hsame]
        | inr hsubmitted => exact hsubmitted.statusLedger hledger
      exact ih hstep

theorem statusesConform_submitAll (request : TransferRequest) (db : Db)
    (toIds : List ℕ) (username : String) :
    StatusesConform request db
      (run (fun db toId => submitPicks db toId username) db toIds) := by
  constructor
  · intro toId old new hold hnew _
    cases run_submitPicks_status db toIds username toId with
    | inl hsame =>
        exact Or.inl (Option.some.inj (hnew.symm.trans (hsame.trans hold)))
    | inr hmoved =>
        obtain ⟨before, after, hbefore, hafter, hfrom, hto⟩ := hmoved
        obtain rfl : before = old := Option.some.inj (hbefore.symm.trans hold)
        obtain rfl : after = new := Option.some.inj (hafter.symm.trans hnew)
        exact hfrom.conforms hto
  · exact lines_unchanged (run_submitPicks_lines db toIds username)

/-! ## Answers -/

/-- What the entries of a snapshot do to a line: they credit it, and may leave it
approved once all it committed is picked. -/
theorem moveEntries_lineStatus {now : ℕ} {entries : List (ℕ × ℕ × ℤ)}
    (hmoved : moveEntries now header entries db = .ok moved) :
    ∀ line ∈ moved.transferOrderLines.rows, ∃ old ∈ db.transferOrderLines.rows,
      old.toLineId = line.toLineId ∧ old.pickedQty = line.pickedQty ∧
      old.committedQty = line.committedQty ∧
      (line.status = old.status ∨
        (line.status = .toLineApproved ∧ old.pickedQty = old.committedQty)) := by
  refine moveEntries_induct (fun _ state =>
    ∀ line ∈ state.transferOrderLines.rows, ∃ old ∈ db.transferOrderLines.rows,
      old.toLineId = line.toLineId ∧ old.pickedQty = line.pickedQty ∧
      old.committedQty = line.committedQty ∧
      (line.status = old.status ∨
        (line.status = .toLineApproved ∧ old.pickedQty = old.committedQty)))
    ?_ ?_ hmoved ?_
  · exact fun entry rest state _ hstate => hstate
  · intro entry rest state next hunits hstate line hline
    rw [hunits.lines] at hline
    obtain ⟨row, hrow, rfl⟩ := Table.exists_of_mem_updateKey hline
    obtain ⟨old, hold, hkey, hpicked, hcommitted, hstatus⟩ := hstate row hrow
    refine ⟨old, hold, ?_⟩
    by_cases hhere : row.toLineId = entry.1
    · simp only [if_pos hhere, addApproved]
      refine ⟨hkey, hpicked, hcommitted, ?_⟩
      split
      · rename_i hfull
        exact Or.inr ⟨rfl, hpicked.trans (hfull.2.trans hcommitted.symm)⟩
      · exact hstatus
    · simp only [if_neg hhere]
      exact ⟨hkey, hpicked, hcommitted, hstatus⟩
  · exact fun line hline => ⟨line, hline, rfl, rfl, rfl, Or.inl rfl⟩

/-- The headers after an approval. -/
theorem Approved.orders_cases
    (happroved : Approved ctx toId toApprovalId header approval db moved db') :
    db'.transferOrders = db.transferOrders ∨
      db'.transferOrders = db.transferOrders.updateKey header.toId fun row =>
        { row with status := .toClosed } := by
  rw [happroved.orders]
  split
  · exact Or.inr rfl
  · exact Or.inl rfl

theorem Approved.statusLedger
    (happroved : Approved ctx toId toApprovalId header approval db moved db')
    (hledger : StatusLedger db) : StatusLedger db' := by
  apply hledger.of_rows
  · rw [happroved.lines]
    intro line hline hpickable
    obtain ⟨old, hold, -, hpicked, hcommitted, hstatus⟩ :=
      moveEntries_lineStatus happroved.moves line hline
    cases hstatus with
    | inl hsame =>
        have hopen : pickable old := by
          unfold pickable at hpickable ⊢
          rwa [hsame] at hpickable
        rw [← hpicked, ← hcommitted]
        exact hledger.unfilled old hold hopen
    | inr hfull => simp [pickable, hfull.1] at hpickable
  · cases happroved.orders_cases with
    | inl hsame => rw [hsame]
    | inr hclosed =>
        rw [hclosed]
        exact le_rfl
  · rw [happroved.approvals]
    intro row hrow
    obtain ⟨old, hold, rfl⟩ := Table.exists_of_mem_updateKey hrow
    refine ⟨old, hold, ?_⟩
    split <;> rfl
  · cases happroved.orders_cases with
    | inl hsame =>
        rw [hsame]
        exact fun row hrow => Or.inr (Or.inl ⟨row, hrow, rfl, rfl⟩)
    | inr hclosed =>
        rw [hclosed]
        exact headers_update fun row => ⟨by simp, by simp⟩

theorem Approved.statusesConform
    (happroved : Approved ctx toId toApprovalId header approval db moved db')
    (hledger : StatusLedger db) :
    StatusesConform (.approve toId toApprovalId) db db' := by
  constructor
  · intro other old new hold hnew hlive
    cases happroved.orders_cases with
    | inl hsame => exact headers_unchanged hsame other old new hold hnew hlive
    | inr hclosed =>
        rw [headerStatusOf, hclosed] at hnew
        cases Table.view_updateKey _ hold hnew with
        | inl hsame => exact Or.inl hsame
        | inr hwritten =>
            obtain ⟨row, hrow, hkey, rfl, rfl⟩ := hwritten
            have hstored := Table.find?_key happroved.stored
            have hrowkey := Table.find?_key hrow
            have hsubmitted := hledger.submitted approval
              (Table.find?_mem happroved.found) row (Table.find?_mem hrow)
              (hrowkey.trans (hkey.trans (hstored.trans happroved.order.symm)))
            have hcancelled := hlive rfl
            cases hstatus : row.status with
            | toOpen => exact absurd hstatus hsubmitted.1
            | toPartiallyPicked => exact Or.inr (Or.inr ⟨rfl, Or.inl rfl, rfl⟩)
            | toAwaitingApproval => exact Or.inr (Or.inr ⟨rfl, Or.inr rfl, rfl⟩)
            | toApproved => exact absurd hstatus hsubmitted.2
            | toClosed => exact Or.inl rfl
            | toCancelled => exact absurd hstatus hcancelled
  · intro toLineId old new hold hnew hlive
    obtain ⟨line, hline, rfl⟩ := Option.map_eq_some_iff.mp hold
    obtain ⟨written, hwritten, rfl⟩ := Option.map_eq_some_iff.mp hnew
    rw [happroved.lines] at hwritten
    obtain ⟨before, hbefore, hkey, -, -, hstatus⟩ := moveEntries_lineStatus
      happroved.moves written (Table.find?_mem hwritten)
    have hfound : db.transferOrderLines.find? toLineId = some before :=
      Table.find?_eq_some_iff.mpr ⟨hbefore, hkey.trans (Table.find?_key hwritten)⟩
    obtain rfl : before = line := Option.some.inj (hfound.symm.trans hline)
    cases hstatus with
    | inl hsame => exact Or.inl hsame
    | inr hfull =>
        have hnotopen : ¬ pickable before := fun hpickable =>
          absurd hfull.2 (hledger.unfilled before hbefore hpickable).ne
        rw [hfull.1]
        cases hcurrent : before.status with
        | toLinePending | toLinePartiallyPicked => simp [pickable, hcurrent] at hnotopen
        | toLinePicked => exact Or.inr (Or.inl (by decide))
        | toLineApproved => exact Or.inl rfl
        | toLineShortClosed => exact absurd hcurrent (hlive rfl)

theorem Rejected.statusLedger (hrejected : Rejected toId toApprovalId db db')
    (hledger : StatusLedger db) : StatusLedger db' := by
  obtain ⟨approvedBy, happrovals⟩ := hrejected.approvals
  apply hledger.of_rows
  · rw [hrejected.lines]
    exact hledger.unfilled
  · rw [hrejected.orders]
  · rw [happrovals]
    intro row hrow
    obtain ⟨old, hold, rfl⟩ := Table.exists_of_mem_updateKey hrow
    refine ⟨old, hold, ?_⟩
    split <;> rfl
  · rw [hrejected.orders]
    exact fun row hrow => Or.inr (Or.inl ⟨row, hrow, rfl, rfl⟩)

/-! ## Ends -/

theorem CancelledTransfer.statusLedger (hcancelled : CancelledTransfer toId db db')
    (hledger : StatusLedger db) : StatusLedger db' := by
  apply hledger.of_rows
  · rw [hcancelled.lines]
    exact hledger.unfilled
  · rw [hcancelled.orders]
    exact le_rfl
  · rw [hcancelled.approvals]
    exact fun approval happroval => ⟨approval, happroval, rfl⟩
  · rw [hcancelled.orders]
    exact headers_update fun header => ⟨by simp, by simp⟩

theorem CancelledTransfer.statusesConform (hcancelled : CancelledTransfer toId db db') :
    StatusesConform request db db' := by
  obtain ⟨header, hheader, hedge, -⟩ := hcancelled.header
  constructor
  · intro other old new hold hnew _
    rw [headerStatusOf, hcancelled.orders] at hnew
    cases Table.view_updateKey _ hold hnew with
    | inl hsame => exact Or.inl hsame
    | inr hwritten =>
        obtain ⟨row, hrow, hkey, rfl, rfl⟩ := hwritten
        rw [hkey, hheader, Option.some.injEq] at hrow
        rw [← hrow]
        exact Or.inr (Or.inl hedge)
  · exact lines_unchanged hcancelled.lines

theorem DeletedTransfer.statusLedger (hdeleted : DeletedTransfer toId db db')
    (hledger : StatusLedger db) : StatusLedger db' := by
  apply hledger.of_rows
  · rw [hdeleted.lines]
    exact fun line hline => hledger.unfilled line (List.mem_of_mem_filter hline)
  · rw [hdeleted.orders]
    exact le_rfl
  · rw [hdeleted.approvals]
    exact fun approval happroval => ⟨approval, happroval, rfl⟩
  · rw [hdeleted.orders]
    exact fun header hheader => Or.inr (Or.inl ⟨header, List.mem_of_mem_filter hheader, rfl, rfl⟩)

theorem DeletedTransfer.statusesConform (hdeleted : DeletedTransfer toId db db') :
    StatusesConform request db db' := by
  constructor
  · intro other old new hold hnew _
    rw [headerStatusOf, hdeleted.orders] at hnew
    exact Or.inl (Table.view_delete _ hold hnew)
  · intro toLineId old new hold hnew _
    rw [lineStatusOf, hdeleted.lines] at hnew
    exact Or.inl (Table.view_delete _ hold hnew)

theorem ShortClosed.statusLedger (hclosed : ShortClosed toId toLineId db db')
    (hledger : StatusLedger db) : StatusLedger db' := by
  apply hledger.of_rows
  · rw [hclosed.lines]
    apply hledger.unfilled_updateKey
    intro line _ _ hpickable
    simp [pickable] at hpickable
  · rw [hclosed.orders]
  · rw [hclosed.approvals]
    exact fun approval happroval => ⟨approval, happroval, rfl⟩
  · rw [hclosed.orders]
    exact fun header hheader => Or.inr (Or.inl ⟨header, hheader, rfl, rfl⟩)

theorem ShortClosed.statusesConform (hclosed : ShortClosed toId toLineId db db') :
    StatusesConform request db db' := by
  obtain ⟨line, -, hline, -, -, hedge, -⟩ := hclosed.line
  constructor
  · exact headers_unchanged hclosed.orders
  · intro other old new hold hnew _
    rw [lineStatusOf, hclosed.lines] at hnew
    cases Table.view_updateKey _ hold hnew with
    | inl hsame => exact Or.inl hsame
    | inr hwritten =>
        obtain ⟨row, hrow, hkey, rfl, rfl⟩ := hwritten
        rw [hkey, hline, Option.some.injEq] at hrow
        rw [← hrow]
        exact Or.inr (Or.inl hedge)

end Requests

/-! ## All requests -/

theorem StatusLedger.serve (hledger : StatusLedger db) : StatusLedger (serveTransfer db call) := by
  obtain ⟨ctx, request⟩ := call
  have hwrites := serveTransfer_writes ctx request db
  generalize serveTransfer db ⟨ctx, request⟩ = db' at hwrites ⊢
  cases hwrites with
  | nothing hsame => exact hledger.same hsame
  | imports hserved => exact (importTransferOrder_imported hserved).statusLedger hledger
  | picks hpicked => exact hpicked.statusLedger hledger
  | submits toId => exact statusLedger_submitAll hledger [toId]
  | completes hserved =>
      exact (statusLedger_submitAll hledger _).same (completeBatch_transfers hserved)
  | approves _ happroved => exact happroved.statusLedger hledger
  | rejects hrejected => exact hrejected.statusLedger hledger
  | cancels hcancelled => exact hcancelled.statusLedger hledger
  | deletes hdeleted => exact hdeleted.statusLedger hledger
  | closes hclosed => exact hclosed.statusLedger hledger

theorem StatusLedger.statusesConform (hledger : StatusLedger db) :
    StatusesConform call.request db (serveTransfer db call) := by
  obtain ⟨ctx, request⟩ := call
  have hwrites := serveTransfer_writes ctx request db
  generalize serveTransfer db ⟨ctx, request⟩ = db' at hwrites ⊢
  cases hwrites with
  | nothing hsame => exact hsame.statusesConform
  | imports hserved => exact (importTransferOrder_imported hserved).statusesConform
  | picks hpicked => exact hpicked.statusesConform rfl
  | submits toId => exact statusesConform_submitAll _ db [toId] ctx.username
  | @completes batchId _ _ hserved =>
      have hsubmits := statusesConform_submitAll (.completeBatch batchId) db
        (transferOrdersOf db batchId) ctx.username
      have hsame := completeBatch_transfers hserved
      constructor
      · intro toId old new hold hnew
        rw [headerStatusOf, hsame.orders] at hnew
        exact hsubmits.headers toId old new hold hnew
      · intro toLineId old new hold hnew
        rw [lineStatusOf, hsame.lines] at hnew
        exact hsubmits.lines toLineId old new hold hnew
  | approves _ happroved => exact happroved.statusesConform hledger
  | rejects hrejected =>
      exact ⟨headers_unchanged hrejected.orders, lines_unchanged hrejected.lines⟩
  | cancels hcancelled => exact hcancelled.statusesConform
  | deletes hdeleted => exact hdeleted.statusesConform
  | closes hclosed => exact hclosed.statusesConform

/-- From a database without transfer orders, every request of every run changes
the status of a header or a line along the tables, fills a pending line at once, or
closes an order on its approval. -/
theorem statuses_conform {db : Db} (hnone : NoTransfers db) (calls : List TransferCall) :
    Along serveTransfer (fun state call =>
      StatusesConform call.request state (serveTransfer state call)) db calls := by
  have hserved : Along serveTransfer (fun _ _ => True) db calls :=
    along_forall (fun _ _ => trivial) db calls
  exact along_of_invariant (fun _ _ hledger _ => StatusLedger.serve hledger)
    (fun _ _ hledger _ => hledger.statusesConform) hnone.statusLedger hserved

/-- Three units picked at once, submitted and approved. -/
def filledAtOnce : List TransferRequest :=
  [SmallTransfer.transfer "TO-1" 3, .startToPicking 1,
    .confirmPick (SmallWarehouse.confirm 1 3), .submitPicks 1, .approve 1 1]

theorem statuses_conform_filledAtOnce :
    Along serveTransfer (fun state call =>
      StatusesConform call.request state (serveTransfer state call))
      SmallTransfer.db (SmallTransfer.calls filledAtOnce) :=
  statuses_conform (by decide) _

/-- The pick takes the line from `PENDING` to `PICKED`, and the approval takes the
header from `AWAITING_APPROVAL` to `CLOSED`; neither is an edge. -/
theorem filledAtOnce_leavesTables :
    lineStatusOf (SmallTransfer.after (filledAtOnce.take 2)) 1 = some .toLinePending ∧
      lineStatusOf (SmallTransfer.after (filledAtOnce.take 3)) 1 = some .toLinePicked ∧
      .toLinePicked ∉ lineTransitions .toLinePending ∧
      headerStatusOf (SmallTransfer.after (filledAtOnce.take 4)) 1 = some .toAwaitingApproval ∧
      headerStatusOf (SmallTransfer.after filledAtOnce) 1 = some .toClosed ∧
      .toClosed ∉ headerTransitions .toAwaitingApproval := by
  decide

end SentryWms.TransferOrders

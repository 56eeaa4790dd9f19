import SentryWms.TransferOrders.Conformance

/-!
# Terminal orders and lines

A cancelled transfer order and a short-closed line have given their reservations
back, but tasks and pending approvals of theirs stay behind.  A request moves stock
by effects, most of them on behalf of one line; the effects on behalf of a terminal
line are inert as long as no approval or second release is accepted for it, and the
line then stays terminal.
-/

namespace SentryWms.TransferOrders

open Relational Inventory Picking

/-! ## Effects -/

/-- A part of a request that moves stock, with the states around it; it may serve
a transfer line. -/
structure Effect where
  toLineId? : Option ℕ
  before : Db
  after : Db

/-- The effects of a walk, one for each input. -/
def walkEffects {Input : Type} (step : Db → Input → Db)
    (lineOf : Input → Option ℕ) : Db → List Input → List Effect
  | _, [] => []
  | db, input :: rest =>
      ⟨lineOf input, db, step db input⟩ :: walkEffects step lineOf (step db input) rest

/-- The effects of the entries of a snapshot. -/
def entryEffects (now : ℕ) (header : TransferOrder) :
    List (ℕ × ℕ × ℤ) → Db → List Effect
  | [], _ => []
  | entry :: rest, db =>
      match moveEntry now header entry db with
      | .error _ => []
      | .ok moved => ⟨some entry.1, db, moved⟩ :: entryEffects now header rest moved

def releaseEffects (db : Db) (toId : ℕ) : List Effect :=
  match db.transferOrders.find? toId with
  | none => []
  | some header =>
      walkEffects (releaseLine header.sourceWarehouseId)
        (fun line => some line.toLineId) db (linesToRelease db toId)

def revertEffects (ctx : RequestContext) (db : Db) (batchId : ℕ) : List Effect :=
  match db.pickBatches.find? batchId with
  | none => []
  | some batch =>
      if batch.status.active then
        walkEffects (undoTask ctx batch.warehouseId) PickTask.toLineId? db
          (tasksOf db batch.batchId)
      else []

def approveEffects (ctx : RequestContext) (db : Db) (toId toApprovalId : ℕ) : List Effect :=
  match db.transferOrders.find? toId,
    db.transferOrderApprovals.find? toApprovalId with
  | some header, some approval =>
      entryEffects ctx.now header (snapshotEntries approval) db
  | _, _ => []

/-- The effects of a request.  A refused one has none. -/
def effects (db : Db) (call : TransferCall) : List Effect :=
  let ctx := call.ctx
  let served := serveTransfer db call
  match call.request with
  | .confirmPick request =>
      [⟨(db.pickTasks.find? request.pickTaskId).bind PickTask.toLineId?, db, served⟩]
  | .shortPick request =>
      [⟨(db.pickTasks.find? request.pickTaskId).bind PickTask.toLineId?, db, served⟩]
  | .cancelBatch batchId => revertEffects ctx db batchId
  | .approve toId toApprovalId =>
      if (approveTransferOrderApproval ctx db toId toApprovalId).isOk then
        approveEffects ctx db toId toApprovalId
      else []
  | .cancel toId =>
      if (cancelTransferOrder db toId).isOk then releaseEffects db toId else []
  | .delete toId =>
      if (deleteTransferOrder db toId).isOk then releaseEffects db toId else []
  | .shortClose _ toLineId => [⟨some toLineId, db, served⟩]
  | _ => [⟨none, db, served⟩]

variable {db db' : Db} {header : TransferOrder} {toId toLineId other : ℕ}

variable {effect : Effect} {now toApprovalId : ℕ} {entries : List (ℕ × ℕ × ℤ)}
  {call : TransferCall} {username : String} {moved : Db}

theorem mem_walkEffects {Input : Type} {step : Db → Input → Db}
    {lineOf : Input → Option ℕ} {inputs : List Input}
    (hmem : effect ∈ walkEffects step lineOf db inputs) :
    ∃ input ∈ inputs, ∃ state,
      effect = ⟨lineOf input, state, step state input⟩ := by
  induction inputs generalizing db with
  | nil => cases hmem
  | cons input rest ih =>
      cases List.mem_cons.mp hmem with
      | inl hhead => exact ⟨input, List.mem_cons_self, db, hhead⟩
      | inr hrest =>
          obtain ⟨other, hother, heffect⟩ := ih hrest
          exact ⟨other, List.mem_cons_of_mem _ hother, heffect⟩

theorem mem_entryEffects (hmem : effect ∈ entryEffects now header entries db) :
    ∃ entry ∈ entries, effect.toLineId? = some entry.1 := by
  induction entries generalizing db with
  | nil => cases hmem
  | cons entry rest ih =>
      rw [entryEffects] at hmem
      split at hmem
      · cases hmem
      · cases List.mem_cons.mp hmem with
        | inl hhead =>
            rw [hhead]
            exact ⟨entry, List.mem_cons_self, rfl⟩
        | inr hrest =>
            obtain ⟨other, hother, hline⟩ := ih hrest
            exact ⟨other, List.mem_cons_of_mem _ hother, hline⟩

/-- The effects lead from one inventory to another, each from where the one before it
stopped. -/
def Chained (start : Db) : List Effect → Db → Prop
  | [], final => final.inventory = start.inventory
  | effect :: rest, final =>
      effect.before.inventory = start.inventory ∧ Chained effect.after rest final

theorem Chained.to {start final : Db} {parts : List Effect} (hchained : Chained start parts final)
    (hsame : db.inventory = final.inventory) : Chained start parts db := by
  induction parts generalizing start with
  | nil => exact hsame.trans hchained
  | cons effect rest ih => exact ⟨hchained.1, ih hchained.2⟩

theorem walkEffects_chained {Input : Type} (step : Db → Input → Db)
    (lineOf : Input → Option ℕ) (inputs : List Input) :
    Chained db (walkEffects step lineOf db inputs) (run step db inputs) := by
  induction inputs generalizing db with
  | nil => rfl
  | cons input rest ih => exact ⟨rfl, ih⟩

theorem entryEffects_chained (hmoved : moveEntries now header entries db = .ok moved) :
    Chained db (entryEffects now header entries db) moved := by
  induction entries generalizing db with
  | nil =>
      obtain rfl : db = moved := by simpa [moveEntries] using hmoved
      rfl
  | cons entry rest ih =>
      obtain ⟨middle, hone, hrest⟩ := bind_eq_ok.mp hmoved
      rw [entryEffects, hone]
      exact ⟨rfl, ih hrest⟩

/-- The effects of a request are all that it does to the inventory. -/
theorem effects_chained (db : Db) (call : TransferCall) :
    Chained db (effects db call) (serveTransfer db call) := by
  obtain ⟨ctx, request⟩ := call
  cases request with
  | cancelBatch batchId =>
      simp only [effects, revertEffects, serveTransfer, fullRevertBatch]
      cases hbatch : db.pickBatches.find? batchId with
      | none => rfl
      | some batch =>
          simp only [orThrow, bind, Except.bind, pure, Except.pure, committed, revertBatch]
          split
          · exact (walkEffects_chained ..).to rfl
          · rfl
  | approve toId toApprovalId =>
      simp only [effects, serveTransfer]
      cases hserved : approveTransferOrderApproval ctx db toId toApprovalId with
      | error refusal => rfl
      | ok served =>
          obtain ⟨header, approval, moved, happroved⟩ := approve_approved hserved
          change Chained db (approveEffects ctx db toId toApprovalId) served.1
          rw [approveEffects, happroved.stored, happroved.found]
          exact (entryEffects_chained happroved.moves).to happroved.inventory
  | cancel toId =>
      simp only [effects, serveTransfer]
      cases hserved : cancelTransferOrder db toId with
      | error refusal => rfl
      | ok served =>
          obtain ⟨header, hheader, -, hinventory⟩ := (cancel_cancelled hserved).header
          change Chained db (releaseEffects db toId) served.1
          rw [releaseEffects, hheader]
          exact (walkEffects_chained ..).to hinventory
  | delete toId =>
      simp only [effects, serveTransfer]
      cases hserved : deleteTransferOrder db toId with
      | error refusal => rfl
      | ok served =>
          obtain ⟨header, hheader, hinventory⟩ := (delete_deleted hserved).header
          change Chained db (releaseEffects db toId) served.1
          rw [releaseEffects, hheader]
          exact (walkEffects_chained ..).to hinventory
  | _ => exact ⟨rfl, rfl⟩

/-- No row's units on hand change, and no row's reservation is lowered. -/
def Inert (before after : Db) : Prop :=
  List.Forall₂ (fun old new => new.inventoryId = old.inventoryId ∧
    new.quantityOnHand = old.quantityOnHand ∧
    old.quantityAllocated ≤ new.quantityAllocated)
    before.inventory.rows after.inventory.rows

theorem Inert.of_inventory {before after : Db}
    (hsame : after.inventory = before.inventory) : Inert before after := by
  rw [Inert, hsame, List.forall₂_same]
  intro row _
  exact ⟨rfl, rfl, le_rfl⟩

/-! ## Terminal lines -/

/-- The line was short-closed, or its order cancelled, or deleted with it. -/
def Terminal (db : Db) (toLineId : ℕ) : Prop :=
  toLineId < db.transferOrderLines.nextKey ∧
    ∀ line ∈ db.transferOrderLines.find? toLineId,
      line.status = .toLineShortClosed ∨ headerStatusOf db line.toId = some .toCancelled

instance (db : Db) (toLineId : ℕ) : Decidable (Terminal db toLineId) :=
  inferInstanceAs (Decidable (_ ∧ _))

/-- The request is none of those that act for a terminal line all the same: an
approval of its units or of its cancelled order, and another release of what it gave
back. -/
def ActsOnLive (db : Db) (call : TransferCall) : Prop :=
  match call.request with
  | .approve toId toApprovalId =>
      (approveTransferOrderApproval call.ctx db toId toApprovalId).isOk →
        headerStatusOf db toId ≠ some .toCancelled ∧
        ∀ approval ∈ db.transferOrderApprovals.find? toApprovalId,
          ∀ entry ∈ approval.linesSnapshot, ¬ Terminal db entry.1
  | .cancel toId =>
      (cancelTransferOrder db toId).isOk →
        ∀ line ∈ linesToRelease db toId, ¬ Terminal db line.toLineId
  | .delete toId =>
      (deleteTransferOrder db toId).isOk →
        ∀ line ∈ linesToRelease db toId, ¬ Terminal db line.toLineId
  | .shortClose toId toLineId =>
      (shortCloseToLine db toId toLineId).isOk →
        ∀ line ∈ db.transferOrderLines.find? toLineId, 0 < outstanding line → ¬ Terminal db toLineId
  | _ => True

instance (db : Db) (call : TransferCall) : Decidable (ActsOnLive db call) := by
  obtain ⟨ctx, request⟩ := call
  cases_type TransferRequest <;> unfold ActsOnLive <;> infer_instance

/-- Every effect of the request on behalf of the line is inert. -/
def InertFor (toLineId : ℕ) (db : Db) (call : TransferCall) : Prop :=
  ∀ effect ∈ effects db call, effect.toLineId? = some toLineId → Inert effect.before effect.after

theorem releaseEffects_inertFor
    (hother : ∀ line ∈ linesToRelease db toId, line.toLineId ≠ toLineId) :
    ∀ effect ∈ releaseEffects db toId, effect.toLineId? ≠ some toLineId := by
  intro effect heffect
  unfold releaseEffects at heffect
  split at heffect
  · cases heffect
  · obtain ⟨line, hline, state, rfl⟩ := mem_walkEffects heffect
    exact fun hsame => hother line hline (Option.some.inj hsame)

/-- A terminal line is served by no effect, or by one that leaves the inventory
alone. -/
theorem Terminal.inertFor (hterminal : Terminal db toLineId)
    (hlive : ActsOnLive db call) : InertFor toLineId db call := by
  obtain ⟨ctx, request⟩ := call
  intro effect heffect hline
  have hunserved : ∀ after, effect = ⟨none, db, after⟩ →
      Inert effect.before effect.after := by
    rintro after rfl
    cases hline
  cases request with
  | confirmPick request =>
      rw [List.mem_singleton.mp heffect] at hline ⊢
      simp only [serveTransfer]
      cases hserved : confirmPick ctx db request with
      | error refusal => exact Inert.of_inventory rfl
      | ok served =>
          obtain ⟨task, hfound, -, -, hstate⟩ := confirmPick_ok hserved
          rw [hfound, Option.bind_some] at hline
          cases hstate with
          | salesOrder soId soLineId htarget hstate =>
              rw [PickTask.toLineId?, htarget] at hline
              cases hline
          | transferOrder toId other credited htarget hcredited hstate =>
              apply Inert.of_inventory
              simp only [updateTransferOrderLinePicked, bind_eq_ok,
                require_eq_ok, orThrow_eq_ok, pure_eq_ok] at hcredited
              obtain ⟨-, -, line, -, rfl⟩ := hcredited
              simp only [committed, hstate]
              rfl
  | shortPick request =>
      rw [List.mem_singleton.mp heffect] at hline ⊢
      simp only [serveTransfer]
      cases hserved : shortPick ctx db request with
      | error refusal => exact Inert.of_inventory rfl
      | ok served =>
          obtain ⟨task, hfound, hsalesOrder⟩ := shortPick_soId hserved
          rw [hfound, Option.bind_some] at hline
          cases htarget : task.target with
          | salesOrder soId soLineId =>
              rw [PickTask.toLineId?, htarget] at hline
              cases hline
          | transferOrder toId other =>
              rw [PickTask.soId?, htarget] at hsalesOrder
              cases hsalesOrder
  | cancelBatch batchId =>
      simp only [effects, revertEffects] at heffect
      split at heffect
      · cases heffect
      · split at heffect
        · obtain ⟨task, htask, state, rfl⟩ := mem_walkEffects heffect
          apply Inert.of_inventory
          have hserves : task.soId? = none := by
            cases htarget : task.target with
            | salesOrder soId soLineId =>
                simp only [PickTask.toLineId?, htarget] at hline
                cases hline
            | transferOrder toId other => simp [PickTask.soId?, htarget]
          simp only [undoTask, if_pos hserves]
        · cases heffect
  | approve toId toApprovalId =>
      simp only [effects] at heffect
      split at heffect
      · rename_i haccepted
        obtain ⟨-, hentries⟩ := hlive haccepted
        unfold approveEffects at heffect
        split at heffect
        · rename_i header approval hheader happroval
          obtain ⟨entry, hentry, hserves⟩ := mem_entryEffects heffect
          have hsame : entry.1 = toLineId := Option.some.inj (hserves.symm.trans hline)
          have hlisted : entry ∈ approval.linesSnapshot := mem_orderBy.mp hentry
          exact absurd (hsame ▸ hterminal) (hentries approval happroval entry hlisted)
        · cases heffect
      · cases heffect
  | cancel | delete =>
      simp only [effects] at heffect
      split at heffect
      · rename_i haccepted
        refine absurd hline (releaseEffects_inertFor (fun line hreleased hsame => ?_)
          effect heffect)
        exact hlive haccepted line hreleased (hsame ▸ hterminal)
      · cases heffect
  | shortClose toId other =>
      rw [List.mem_singleton.mp heffect] at hline ⊢
      obtain rfl : other = toLineId := Option.some.inj hline
      simp only [serveTransfer]
      cases hserved : shortCloseToLine db toId other with
      | error refusal => exact Inert.of_inventory rfl
      | ok served =>
          obtain ⟨line, header, hfound, -, -, -, hinventory⟩ :=
            (shortClose_shortClosed hserved).line
          apply Inert.of_inventory
          refine Eq.trans hinventory ?_
          have hnothing : outstanding line ≤ 0 := by
            by_contra hunits
            exact hlive (by rw [hserved]; rfl) line hfound (not_le.mp hunits)
              hterminal
          rw [releaseLine, releaseInventoryAllocation, draws_of_nonpos _ hnothing]
          rfl
  | outside | importTransferOrder | startToPicking | completeBatch | submitPicks | reject =>
      exact hunserved _ (List.mem_singleton.mp heffect)

/-! ## Terminal lines stay terminal -/

/-- A line stays terminal if its row, as long as it is stored, keeps its order and
stays short-closed, or its header stays cancelled. -/
theorem Terminal.of_rows (hterminal : Terminal db toLineId)
    (hnext : db.transferOrderLines.nextKey ≤ db'.transferOrderLines.nextKey)
    (hrow : ∀ line', db'.transferOrderLines.find? toLineId = some line' →
      ∃ line, db.transferOrderLines.find? toLineId = some line ∧ line'.toId = line.toId ∧
        (line.status = .toLineShortClosed → line'.status = .toLineShortClosed) ∧
        (headerStatusOf db line.toId = some .toCancelled →
          headerStatusOf db' line.toId = some .toCancelled)) :
    Terminal db' toLineId := by
  refine ⟨hterminal.1.trans_le hnext, fun line' hline' => ?_⟩
  obtain ⟨line, hline, horder, hclosed, hcancelled⟩ := hrow line' hline'
  cases hterminal.2 line hline with
  | inl hstatus => exact Or.inl (hclosed hstatus)
  | inr hheader =>
      rw [horder]
      exact Or.inr (hcancelled hheader)

theorem Terminal.same (hterminal : Terminal db toLineId)
    (hsame : SameTransfers db db') : Terminal db' toLineId := by
  apply hterminal.of_rows
  · rw [hsame.lines]
  · intro line hline
    rw [hsame.lines] at hline
    refine ⟨line, hline, rfl, id, fun hcancelled => ?_⟩
    rwa [headerStatusOf, hsame.orders]

/-- An update of other headers leaves a cancelled one cancelled. -/
theorem cancelled_update {test : TransferOrder → Bool}
    {set : TransferOrder → TransferOrder}
    {hset : ∀ header, (set header).toId = header.toId}
    (horders : db'.transferOrders = db.transferOrders.update test set hset)
    (hother : ∀ header, test header → header.status = .toCancelled →
      (set header).status = .toCancelled)
    (hcancelled : headerStatusOf db toId = some .toCancelled) :
    headerStatusOf db' toId = some .toCancelled := by
  obtain ⟨header, hheader, hstatus⟩ := Option.map_eq_some_iff.mp hcancelled
  rw [headerStatusOf, horders, Table.find?_update, hheader, Option.map_some,
    Option.map_some, Option.some.injEq]
  split
  · rename_i htest
    exact hother header htest hstatus
  · exact hstatus

/-- The rows of the lines after an update that keeps short-closed ones
short-closed. -/
theorem lineRow_updateKey {set : TransferOrderLine → TransferOrderLine}
    {hset : ∀ line, (set line).toLineId = line.toLineId} {line' : TransferOrderLine}
    (hline' : (db.transferOrderLines.updateKey other set hset).find? toLineId =
      some line') (horder : ∀ line, (set line).toId = line.toId)
    (hclosed : ∀ line, db.transferOrderLines.find? other = some line →
      line.status = .toLineShortClosed →
      (set line).status = .toLineShortClosed) :
    ∃ line, db.transferOrderLines.find? toLineId = some line ∧ line'.toId = line.toId ∧
      (line.status = .toLineShortClosed →
        line'.status = .toLineShortClosed) := by
  rw [Table.find?_updateKey] at hline'
  split at hline'
  · rename_i hkey
    obtain ⟨line, hline, rfl⟩ := Option.map_eq_some_iff.mp hline'
    exact ⟨line, hline, horder line, hclosed line (hkey ▸ hline)⟩
  · exact ⟨line', hline', rfl, id⟩

section Persistence

variable {db db' : Db} {toLineId : ℕ}

theorem Terminal.imported {request : ImportRequest}
    (hterminal : Terminal db toLineId) (himported : Imported request db db') :
    Terminal db' toLineId := by
  obtain ⟨header, rows, reserved, committed, added, -, -, horders, -, -, hlines, -,
    hadded⟩ := himported.written
  apply hterminal.of_rows himported.linesNext
  intro line hline
  obtain ⟨hmem, hkey⟩ := Table.find?_eq_some_iff.mp hline
  rw [hlines] at hmem
  have hstored : line ∈ db.transferOrderLines.rows := by
    cases List.mem_append.mp hmem with
    | inl hold => exact hold
    | inr hnew =>
        have := (hadded line hnew).1
        have := hterminal.1
        omega
  refine ⟨line, Table.find?_eq_some_iff.mpr ⟨hstored, hkey⟩, rfl, id,
    fun hcancelled => ?_⟩
  obtain ⟨found, hfound, hstatus⟩ := Option.map_eq_some_iff.mp hcancelled
  have hkept : db'.transferOrders.find? line.toId = some found := by
    apply Table.find?_eq_some_iff.mpr
    rw [horders]
    exact ⟨List.mem_append_left _ (Table.find?_mem hfound), Table.find?_key hfound⟩
  rw [headerStatusOf, hkept, Option.map_some, hstatus]

theorem Terminal.picked {quantity : ℤ} (hterminal : Terminal db toLineId)
    (hpicked : Picked db toId other quantity db') : Terminal db' toLineId := by
  obtain ⟨found, hfound, hpickable, -⟩ := hpicked.line
  apply hterminal.of_rows
  · rw [hpicked.lines]
    exact le_rfl
  · intro line' hline'
    rw [hpicked.lines] at hline'
    have hopen : ∀ line, db.transferOrderLines.find? other = some line →
        line.status ≠ .toLineShortClosed := by
      intro line hline hstatus
      obtain rfl : found = line := Option.some.inj (hfound.symm.trans hline)
      simp [pickable, hstatus] at hpickable
    obtain ⟨line, hline, horder, hclosed⟩ := lineRow_updateKey hline'
      (fun _ => rfl) fun line hline hstatus => absurd hstatus (hopen line hline)
    refine ⟨line, hline, horder, hclosed, cancelled_update hpicked.orders ?_⟩
    intro header htest hstatus
    simp [hstatus] at htest

theorem Terminal.submitted (hterminal : Terminal db toLineId)
    (hsubmitted : Submitted db toId username db') : Terminal db' toLineId := by
  obtain ⟨found, hfound, hfoundstatus⟩ := hsubmitted.header
  apply hterminal.of_rows
  · rw [hsubmitted.lines]
  · intro line hline
    rw [hsubmitted.lines] at hline
    refine ⟨line, hline, rfl, id, fun hcancelled => ?_⟩
    have hother : line.toId ≠ toId := by
      intro hsame
      rw [headerStatusOf, hsame, hfound, Option.map_some, Option.some.injEq] at hcancelled
      simp [hcancelled] at hfoundstatus
    rw [headerStatusOf, hsubmitted.orders, Table.find?_updateKey, if_neg hother]
    exact hcancelled

theorem Terminal.submitAll (hterminal : Terminal db toLineId) (toIds : List ℕ) :
    Terminal (run (fun db toId => submitPicks db toId username) db toIds)
      toLineId := by
  induction toIds generalizing db with
  | nil => exact hterminal
  | cons toId rest ih =>
      have hstep : Terminal (submitPicks db toId username) toLineId := by
        cases submitPicks_cases db toId username with
        | inl hsame => rwa [hsame]
        | inr hsubmitted => exact hterminal.submitted hsubmitted
      exact ih hstep

/-- A line none of the entries lists keeps its row. -/
theorem moveEntries_other (hmoved : moveEntries now header entries db = .ok moved)
    (hother : ∀ entry ∈ entries, entry.1 ≠ toLineId) :
    moved.transferOrderLines.find? toLineId = db.transferOrderLines.find? toLineId ∧
      moved.transferOrderLines.nextKey = db.transferOrderLines.nextKey := by
  have hwalk := moveEntries_induct (fun left state =>
      (∀ entry ∈ left, entry.1 ≠ toLineId) ∧
        state.transferOrderLines.find? toLineId = db.transferOrderLines.find? toLineId ∧
        state.transferOrderLines.nextKey = db.transferOrderLines.nextKey)
    (fun entry rest state _ hstate =>
      ⟨fun other hmem => hstate.1 other (List.mem_cons_of_mem _ hmem), hstate.2⟩)
    (by
      intro entry rest state next hunits hstate
      obtain ⟨hleft, hfind, hnext⟩ := hstate
      refine ⟨fun other hmem => hleft other (List.mem_cons_of_mem _ hmem), ?_, ?_⟩
      · rw [hunits.lines, Table.find?_updateKey, if_neg (hleft entry List.mem_cons_self).symm]
        exact hfind
      · rw [hunits.lines]
        exact hnext)
    hmoved ⟨hother, rfl, rfl⟩
  exact hwalk.2

theorem Terminal.approved {ctx : RequestContext} {approval : TransferOrderApproval}
    (hterminal : Terminal db toLineId)
    (happroved : Approved ctx toId toApprovalId header approval db moved db')
    (hheader : headerStatusOf db toId ≠ some .toCancelled)
    (hentries : ∀ entry ∈ approval.linesSnapshot, ¬ Terminal db entry.1) :
    Terminal db' toLineId := by
  have hother : ∀ entry ∈ snapshotEntries approval, entry.1 ≠ toLineId := by
    intro entry hentry hsame
    exact hentries entry (mem_orderBy.mp hentry) (hsame ▸ hterminal)
  obtain ⟨hrow, hnext⟩ := moveEntries_other happroved.moves hother
  have hstored := Table.find?_key happroved.stored
  apply hterminal.of_rows
  · rw [happroved.lines, hnext]
  · intro line hline
    rw [happroved.lines, hrow] at hline
    refine ⟨line, hline, rfl, id, fun hcancelled => ?_⟩
    cases happroved.orders_cases with
    | inl hsame =>
        rw [headerStatusOf, hsame]
        exact hcancelled
    | inr hclosed =>
        have hne : line.toId ≠ header.toId := by
          intro hsame
          rw [hsame, hstored] at hcancelled
          exact hheader hcancelled
        rw [headerStatusOf, hclosed, Table.find?_updateKey, if_neg hne]
        exact hcancelled

theorem Terminal.rejected (hterminal : Terminal db toLineId)
    (hrejected : Rejected toId toApprovalId db db') : Terminal db' toLineId := by
  apply hterminal.of_rows
  · rw [hrejected.lines]
  · intro line hline
    rw [hrejected.lines] at hline
    refine ⟨line, hline, rfl, id, fun hcancelled => ?_⟩
    rwa [headerStatusOf, hrejected.orders]

theorem Terminal.cancelled (hterminal : Terminal db toLineId)
    (hcancelled : CancelledTransfer toId db db') : Terminal db' toLineId := by
  apply hterminal.of_rows
  · rw [hcancelled.lines]
  · intro line hline
    rw [hcancelled.lines] at hline
    exact ⟨line, hline, rfl, id,
      cancelled_update hcancelled.orders fun _ _ _ => rfl⟩

theorem Terminal.deleted (hterminal : Terminal db toLineId)
    (hdeleted : DeletedTransfer toId db db') : Terminal db' toLineId := by
  apply hterminal.of_rows
  · rw [hdeleted.lines]
    exact le_rfl
  · intro line hline
    rw [hdeleted.lines, Table.find?_delete, Option.filter_eq_some_iff] at hline
    obtain ⟨hfound, hkept⟩ := hline
    refine ⟨line, hfound, rfl, id, fun hcancelled => ?_⟩
    obtain ⟨header, hheader, hstatus⟩ := Option.map_eq_some_iff.mp hcancelled
    have hne : line.toId ≠ toId := by simpa using hkept
    have hheaderkey : header.toId ≠ toId := by
      rw [Table.find?_key hheader]
      exact hne
    rw [headerStatusOf, hdeleted.orders, Table.find?_delete, hheader]
    simp [Option.filter, hheaderkey, hstatus]

theorem Terminal.shortClosed (hterminal : Terminal db toLineId)
    (hclosed : ShortClosed toId other db db') : Terminal db' toLineId := by
  apply hterminal.of_rows
  · rw [hclosed.lines]
    exact le_rfl
  · intro line' hline'
    rw [hclosed.lines] at hline'
    obtain ⟨line, hline, horder, hstays⟩ := lineRow_updateKey hline'
      (fun _ => rfl) fun _ _ _ => rfl
    refine ⟨line, hline, horder, hstays, fun hcancelled => ?_⟩
    rwa [headerStatusOf, hclosed.orders]

end Persistence

theorem Terminal.serve (hterminal : Terminal db toLineId) (hlive : ActsOnLive db call) :
    Terminal (serveTransfer db call) toLineId := by
  obtain ⟨ctx, request⟩ := call
  have hwrites := serveTransfer_writes ctx request db
  generalize serveTransfer db ⟨ctx, request⟩ = db' at hwrites ⊢
  cases hwrites with
  | nothing hsame => exact hterminal.same hsame
  | imports hserved => exact hterminal.imported (importTransferOrder_imported hserved)
  | picks hpicked => exact hterminal.picked hpicked
  | submits toId => exact hterminal.submitAll [toId]
  | completes hserved =>
      exact (hterminal.submitAll _).same (completeBatch_transfers hserved)
  | approves haccepted happroved =>
      obtain ⟨hheader, hentries⟩ := hlive haccepted
      exact hterminal.approved happroved hheader (hentries _ happroved.found)
  | rejects hrejected => exact hterminal.rejected hrejected
  | cancels hcancelled => exact hterminal.cancelled hcancelled
  | deletes hdeleted => exact hterminal.deleted hdeleted
  | closes hclosed => exact hterminal.shortClosed hclosed

/-- In every run none of whose requests acts for a terminal line, by an approval or a
second release, every later effect on behalf of a line that is terminal is inert, and
the line is terminal to the end. -/
theorem terminal_inert {db : Db} {calls : List TransferCall} {toLineId : ℕ}
    (hterminal : Terminal db toLineId)
    (hlive : Along serveTransfer ActsOnLive db calls) :
    Along serveTransfer (InertFor toLineId) db calls ∧
      Terminal (run serveTransfer db calls) toLineId := by
  have hkept : ∀ state call, Terminal state toLineId → ActsOnLive state call →
      Terminal (serveTransfer state call) toLineId :=
    fun _ _ hterminal hlive => hterminal.serve hlive
  exact ⟨along_of_invariant hkept (fun _ _ => Terminal.inertFor) hterminal hlive,
    run_invariant hkept hterminal hlive⟩

/-- Seven units committed from two bins, five picked and submitted; the order is
cancelled with a task and an approval left. -/
def cancelledSubmission : List TransferRequest :=
  [SmallTransfer.transfer "TO-1" 7, .startToPicking 1,
    .confirmPick (SmallWarehouse.confirm 1 5), .submitPicks 1, .cancel 1]

/-- The leftover task is shorted, which fails, and confirmed; the batch is cancelled and
the approval rejected. -/
def leftovers : List TransferRequest :=
  [.shortPick (SmallWarehouse.short 2 1), .confirmPick (SmallWarehouse.confirm 2 2),
    .cancelBatch 1, .reject 1 1]

theorem terminal_inert_leftovers :
    Along serveTransfer (InertFor 1) (SmallTransfer.after cancelledSubmission)
      (SmallTransfer.calls leftovers) ∧
    Terminal (run serveTransfer (SmallTransfer.after cancelledSubmission)
      (SmallTransfer.calls leftovers)) 1 :=
  terminal_inert (by decide) (by decide)

/-- Another transfer order reserves ten units after the cancellation. -/
def cancelledBeforeAnother : List TransferRequest :=
  cancelledSubmission ++ [SmallTransfer.transfer "TO-2" 10]

/-- On hand and reserved units of the bins. -/
def stockAfter (requests : List TransferRequest) : List (ℤ × ℤ) :=
  (SmallTransfer.after requests).inventory.rows.map fun row =>
    (row.quantityOnHand, row.quantityAllocated)

/-- The approval left pending still moves five units of the cancelled order, and
takes them off the reservation of the other. -/
theorem cancelled_approved :
    Terminal (SmallTransfer.after cancelledBeforeAnother) 1 ∧
      stockAfter cancelledBeforeAnother = [(5, 5), (5, 5)] ∧
      stockAfter (cancelledBeforeAnother ++ [.approve 1 1]) = [(0, 0), (5, 5), (5, 0)] ∧
      stockAfter (cancelledBeforeAnother ++ [.shortClose 1 1]) =
        [(5, 0), (5, 3)] := by
  decide

end SentryWms.TransferOrders

import SentryWms.Relational.Answers
import SentryWms.TransferOrders.Ownership
import SentryWms.TransferOrders.LineStatements

/-!
# Quantities of a line under concurrency

In any order of statements the quantities of a line stay in order, its status says how far
it is picked, and its picks are those that were reported.  An update that finds its row
locked waits; one that has written a row keeps the others off until it commits.
-/

namespace SentryWms.TransferOrders

open Relational Sessions Inventory Picking

/-! ## Lines in order -/

/-- The quantities of a line are in order, and its status says what they are. -/
structure LineOrdered (line : TransferOrderLine) : Prop where
  approved_nonneg : 0 ≤ line.approvedQty
  approved_le : line.approvedQty ≤ line.pickedQty
  picked_le : line.pickedQty ≤ line.committedQty
  committed_le : line.committedQty ≤ line.requestedQty
  pending : line.status = .toLinePending → line.pickedQty = 0
  full : line.status = .toLinePicked ∨ line.status = .toLineApproved →
    line.pickedQty = line.committedQty

variable {line : TransferOrderLine} {db db' : Db} {toLineId toId : ℕ}

theorem LineOrdered.pick (hordered : LineOrdered line) {delta : ℤ} (hdelta : 0 < delta)
    (hmatches : pickMatches delta line = true) : LineOrdered (pickLine delta line) := by
  have hfits : line.pickedQty + delta ≤ line.committedQty := (of_decide_eq_true hmatches).1
  have happroved := hordered.approved_le
  refine ⟨hordered.approved_nonneg, ?_, hfits, hordered.committed_le, ?_, ?_⟩
  · change line.approvedQty ≤ line.pickedQty + delta
    omega
  · rw [pickLine]
    split
    · intro hpending
      cases hpending
    · intro hpending
      cases hpending
  · rw [pickLine]
    split
    · rename_i hfilled
      exact fun _ => hfilled
    · rintro (hpicked | hpicked) <;> cases hpicked

theorem LineOrdered.approve (hordered : LineOrdered line) {qty : ℤ} (hqty : 0 < qty)
    (hfits : line.approvedQty + qty ≤ line.pickedQty) :
    LineOrdered (addApproved qty line) := by
  have happroved := hordered.approved_nonneg
  refine ⟨?_, hfits, hordered.picked_le, hordered.committed_le, ?_, ?_⟩
  · change 0 ≤ line.approvedQty + qty
    omega
  · rw [addApproved]
    split
    · intro hpending
      cases hpending
    · exact hordered.pending
  · rw [addApproved]
    split
    · rename_i hclosing
      exact fun _ => hclosing.2
    · exact hordered.full

theorem LineOrdered.shortClose (hordered : LineOrdered line) :
    LineOrdered { line with status := .toLineShortClosed } where
  approved_nonneg := hordered.approved_nonneg
  approved_le := hordered.approved_le
  picked_le := hordered.picked_le
  committed_le := hordered.committed_le
  pending := by
    intro hpending
    cases hpending
  full := by
    rintro (hpicked | happroved)
    · cases hpicked
    · cases happroved

/-! ## What a transaction knows of its lines -/

/-- A version that a pick has written over the committed row. -/
def PickWritten (pick : LinePick) (version : TransferOrderLine) (db : Db) : Prop :=
  0 < pick.delta ∧ ∃ line, db.transferOrderLines.find? pick.toLineId = some line ∧
    pickMatches pick.delta line = true ∧ version = pickLine pick.delta line

/-- Versions that an approval has written, in order and with the picks of their rows. -/
def ApprovalWritten (written : List TransferOrderLine) (db : Db) : Prop :=
  ∀ version ∈ written, LineOrdered version ∧
    ∃ line, db.transferOrderLines.find? version.toLineId = some line ∧
      version.pickedQty = line.pickedQty

def LineMemory.Knows (db : Db) : LineMemory → Prop
  | .checked pick => 0 < pick.delta
  | .recorded pick => 0 < pick.delta
  | .credited pick version => PickWritten pick version db
  | .promoted pick version _ => PickWritten pick version db
  | .moving _ _ _ _ written => ApprovalWritten written db
  | _ => True

/-- Every line is in order. -/
def LinesOrdered (db : Db) : Prop := ∀ line ∈ db.transferOrderLines.rows, LineOrdered line

theorem PickWritten.key {pick : LinePick} {version : TransferOrderLine}
    (hwritten : PickWritten pick version db) : version.toLineId = pick.toLineId := by
  obtain ⟨-, line, hfound, -, rfl⟩ := hwritten
  have hkey : line.toLineId = pick.toLineId := Table.find?_key hfound
  exact hkey

/-! ## Any order of statements -/

section Outline

variable {memory after : LineMemory} {isLocked : LineLock → Bool} {db next : Db}
  {answer : LineAnswer}

/-- A statement takes only locks that are free. -/
theorem LineProceeds.acquires (hproceeds : LineProceeds isLocked db memory after)
    {lock : LineLock} (hheld : after.holds lock = true) :
    memory.holds lock = true ∨ isLocked lock = false := by
  cases hproceeds with
  | checked pick hdelta => cases lock <;> cases hheld
  | recorded pick hfree =>
      cases lock with
      | task pickTaskId => exact Or.inr (of_decide_eq_true hheld ▸ hfree)
      | _ => cases hheld
  | credited pick line hfound hmatches hfree =>
      cases lock with
      | task pickTaskId => exact Or.inl hheld
      | line toLineId => exact Or.inr (of_decide_eq_true hheld ▸ hfree)
      | _ => cases hheld
  | promoted pick version promotes hfree =>
      cases lock with
      | header toId =>
          obtain ⟨hpromotes, hhere⟩ := (Bool.and_eq_true _ _).mp hheld
          exact Or.inr (of_decide_eq_true hhere ▸ hfree hpromotes)
      | _ => exact Or.inl hheld
  | submitting ctx toId hfree =>
      cases lock with
      | header locked => exact Or.inr (of_decide_eq_true hheld ▸ hfree)
      | _ => cases hheld
  | submitted ctx toId snapshot =>
      cases lock with
      | header locked => exact Or.inl hheld
      | _ => cases hheld
  | approving ctx approval hfree =>
      cases lock with
      | approval toApprovalId => exact Or.inr (of_decide_eq_true hheld ▸ hfree)
      | _ => cases hheld
  | moving ctx approval header entries hfree =>
      cases lock with
      | header toId => exact Or.inr (of_decide_eq_true hheld ▸ hfree)
      | approval toApprovalId => exact Or.inl hheld
      | _ => cases hheld
  | skipped ctx approval header entry rest written =>
      cases lock <;> exact Or.inl hheld
  | moved ctx approval header entry rest written line hunits hfound hfits hfree =>
      cases lock with
      | line toLineId =>
          cases (Bool.or_eq_true _ _).mp hheld with
          | inl hhere =>
              have hkey : line.toLineId = entry.1 := Table.find?_key hfound
              have hsame : line.toLineId = toLineId := of_decide_eq_true hhere
              exact Or.inr (hsame ▸ hkey ▸ hfree)
          | inr hbefore => exact Or.inl hbefore
      | _ => exact Or.inl hheld
  | closing line sourceWarehouseId hfound hfree =>
      cases lock with
      | line toLineId => exact Or.inr (of_decide_eq_true hheld ▸ hfree)
      | _ => cases hheld

/-- The row an approval writes over is committed or its own version of one. -/
theorem ApprovalWritten.found {written : List TransferOrderLine}
    (hwritten : ApprovalWritten written db) (hordered : LinesOrdered db)
    (hfound : (db.transferOrderLines.overlay written).find? toLineId = some line) :
    LineOrdered line ∧ ∃ row, db.transferOrderLines.find? toLineId = some row ∧
      line.pickedQty = row.pickedQty := by
  rw [Table.find?_overlay] at hfound
  obtain ⟨row, hrow, hline⟩ := Option.map_eq_some_iff.mp hfound
  cases hversion : Table.versionOf TransferOrderLine.toLineId written toLineId with
  | none =>
      rw [hversion, Option.getD_none] at hline
      exact ⟨hline ▸ hordered row (Table.find?_mem hrow), row, hrow, by rw [hline]⟩
  | some version =>
      rw [hversion, Option.getD_some] at hline
      obtain ⟨hmem, hkey⟩ := Table.versionOf_mem hversion
      obtain ⟨hversionordered, stored, hstored, hpicked⟩ := hwritten version hmem
      rw [hkey] at hstored
      subst hline
      exact ⟨hversionordered, stored, hstored, hpicked⟩

theorem LineProceeds.knows (hproceeds : LineProceeds isLocked db memory after)
    (hordered : LinesOrdered db) (hknows : memory.Knows db) : after.Knows db := by
  cases hproceeds with
  | checked pick hdelta => exact hdelta
  | recorded pick hfree => exact hknows
  | credited pick line hfound hmatches hfree => exact ⟨hknows, line, hfound, hmatches, rfl⟩
  | promoted pick version promotes hfree => exact hknows
  | submitting | submitted | approving => trivial
  | moving ctx approval header entries hfree =>
      intro version hversion
      cases hversion
  | skipped ctx approval header entry rest written => exact hknows
  | moved ctx approval header entry rest written line hunits hfound hfits hfree =>
      intro version hversion
      cases List.mem_cons.mp hversion with
      | inl hnew =>
          have hkey : line.toLineId = entry.1 := Table.find?_key hfound
          obtain ⟨hline, row, hrow, hpicked⟩ := ApprovalWritten.found hknows hordered hfound
          rw [hnew]
          exact ⟨hline.approve hunits hfits, row, hkey ▸ hrow, hpicked⟩
      | inr hold => exact hknows version hold
  | closing line sourceWarehouseId hfound hfree => trivial

theorem storeShortClose_lines (line : TransferOrderLine) (sourceWarehouseId : ℕ) (db : Db) :
    (storeShortClose line sourceWarehouseId db).transferOrderLines =
      db.transferOrderLines.updateKey line.toLineId
        fun row => { row with status := .toLineShortClosed } := by
  have hsame : SameTransfers db (releaseLine sourceWarehouseId db line) :=
    sameTransfers_applyTakes ..
  exact congrArg (fun lines : Table TransferOrderLine TransferOrderLine.toLineId =>
    lines.updateKey line.toLineId (fun row => { row with status := .toLineShortClosed })
      fun _ => rfl)
    hsame.lines

/-- A commit leaves every line in order. -/
theorem LineCommits.ordered (hcommits : LineCommits db memory next answer)
    (hordered : LinesOrdered db) (hknows : memory.Knows db) : LinesOrdered next := by
  intro line hline
  cases hcommits with
  | other next hsame =>
      rw [hsame.lines] at hline
      exact hordered line hline
  | picked pick version promotes =>
      rw [storePick_lines] at hline
      obtain ⟨hdelta, row, hfound, hmatches, rfl⟩ := hknows
      cases Table.mem_overlay hline with
      | inl hnew =>
          rw [List.mem_singleton.mp hnew]
          exact (hordered row (Table.find?_mem hfound)).pick hdelta hmatches
      | inr hold => exact hordered line hold.1
  | submitted ctx toId snapshot => exact hordered line hline
  | approved ctx approval header written next hlines =>
      rw [hlines] at hline
      cases Table.mem_overlay hline with
      | inl hnew => exact (hknows line hnew).1
      | inr hold => exact hordered line hold.1
  | closed closed sourceWarehouseId =>
      rw [storeShortClose_lines] at hline
      obtain ⟨row, hrow, rfl⟩ := Table.exists_of_mem_updateKey hline
      split
      · exact (hordered row hrow).shortClose
      · exact hordered row hrow

/-- A commit leaves the lines alone that it has not locked. -/
theorem LineCommits.unlocked (hcommits : LineCommits db memory next answer)
    (hknows : memory.Knows db) (hunlocked : memory.holds (.line toLineId) = false) :
    next.transferOrderLines.find? toLineId = db.transferOrderLines.find? toLineId := by
  cases hcommits with
  | other next hsame => rw [hsame.lines]
  | picked pick version promotes =>
      rw [storePick_lines]
      apply Table.find?_overlay_of_unwritten
      intro written hwritten
      rw [List.mem_singleton.mp hwritten, hknows.key]
      exact of_decide_eq_false hunlocked
  | submitted ctx toId snapshot => rfl
  | approved ctx approval header written next hlines =>
      rw [hlines]
      apply Table.find?_overlay_of_unwritten
      intro version hversion
      have hnone := List.any_eq_false.mp hunlocked version hversion
      simpa using hnone
  | closed line sourceWarehouseId =>
      rw [storeShortClose_lines, Table.find?_updateKey, if_neg]
      exact fun hhere => of_decide_eq_false hunlocked hhere.symm

/-- What another transaction knows of the lines it has locked survives a commit. -/
theorem LineMemory.Knows.stable {other : LineMemory} (hknows : other.Knows db)
    (hkept : ∀ toLineId, other.holds (.line toLineId) = true →
      next.transferOrderLines.find? toLineId = db.transferOrderLines.find? toLineId) :
    other.Knows next := by
  have hpick : ∀ {pick : LinePick} {version : TransferOrderLine},
      PickWritten pick version db →
        next.transferOrderLines.find? pick.toLineId =
          db.transferOrderLines.find? pick.toLineId → PickWritten pick version next := by
    rintro pick version ⟨hdelta, line, hfound, hrest⟩ hsame
    exact ⟨hdelta, line, hsame.trans hfound, hrest⟩
  cases other with
  | credited | promoted => exact hpick hknows (hkept _ (decide_eq_true rfl))
  | moving ctx approval header entries written =>
      intro version hversion
      obtain ⟨hordered, line, hfound, hpicked⟩ := hknows version hversion
      refine ⟨hordered, line, ?_, hpicked⟩
      rw [hkept version.toLineId]
      · exact hfound
      · exact List.any_eq_true.mpr ⟨version, hversion, decide_eq_true rfl⟩
  | _ => exact hknows

end Outline

theorem line_outline :
    Outline lineProgram LinesOrdered (fun _ memory db => memory.Knows db)
      (fun _ _ _ => True) fun _ _ _ _ _ => True where
  start := fun _ _ _ => trivial
  acquires := fun _ _ _ _ _ hproceed _ hheld => (line_proceeds hproceed).acquires hheld
  proceeds := fun _ _ _ _ _ hordered hknows hproceed =>
    (line_proceeds hproceed).knows hordered hknows
  commits := fun _ _ _ _ _ _ hordered hknows _ hcommit =>
    (line_commits hcommit).ordered hordered hknows
  stable := by
    intro request memory isLocked db next answer other memory' _ hknows hother _ hapart _ hcommit
    apply hother.stable
    intro toLineId hheld
    apply (line_commits hcommit).unlocked hknows
    by_contra hmine
    have hfree : lineProgram.holds other memory' (.line toLineId) = false :=
      hapart (.line toLineId) ((Bool.not_eq_false _).mp hmine)
    change memory'.holds (.line toLineId) = false at hfree
    rw [hheld] at hfree
    cases hfree

/-! ## Reported picks -/

/-- The picks of a line; none where there is no line. -/
def pickedAt (db : Db) (toLineId : ℕ) : ℤ :=
  (db.transferOrderLines.find? toLineId).elim 0 TransferOrderLine.pickedQty

/-- The units an answer reports as picked of a line. -/
def LineAnswer.picks (toLineId : ℕ) : LineAnswer → ℤ
  | .picked pickedId delta => if pickedId = toLineId then delta else 0
  | _ => 0

theorem pickedAt_of_mem (hline : line ∈ db.transferOrderLines.rows) :
    pickedAt db line.toLineId = line.pickedQty := by
  rw [pickedAt, Table.find?_eq_some_iff.mpr ⟨hline, rfl⟩, Option.elim_some]

/-- A commit moves the picks of a line by what its answer reports. -/
theorem LineCommits.picks {memory : LineMemory} {next : Db} {answer : LineAnswer}
    (hcommits : LineCommits db memory next answer) (hknows : memory.Knows db)
    (toLineId : ℕ) : pickedAt next toLineId = pickedAt db toLineId + answer.picks toLineId := by
  by_cases hlocked : memory.holds (.line toLineId) = true
  · cases hcommits with
    | other next hsame => cases hlocked
    | picked pick version promotes =>
        obtain rfl : pick.toLineId = toLineId := of_decide_eq_true hlocked
        have hkey := PickWritten.key hknows
        obtain ⟨-, line, hfound, -, rfl⟩ := hknows
        have hwritten : (storePick pick (pickLine pick.delta line) promotes
            db).transferOrderLines.find? pick.toLineId = some (pickLine pick.delta line) := by
          rw [storePick_lines, Table.find?_overlay, hfound, Table.versionOf, List.find?_cons,
            decide_eq_true hkey]
          rfl
        rw [pickedAt, hwritten, pickedAt, hfound, LineAnswer.picks, if_pos rfl]
        rfl
    | submitted ctx toId snapshot => cases hlocked
    | approved ctx approval header written next hlines =>
        change pickedAt next toLineId = pickedAt db toLineId + 0
        rw [add_zero, pickedAt, pickedAt, hlines, Table.find?_overlay]
        cases hfound : db.transferOrderLines.find? toLineId with
        | none => rfl
        | some row =>
            cases hversion : Table.versionOf TransferOrderLine.toLineId written toLineId with
            | none => rfl
            | some version =>
                obtain ⟨hmem, hkey⟩ := Table.versionOf_mem hversion
                obtain ⟨-, line, hline, hpicked⟩ := hknows version hmem
                rw [hkey, hfound] at hline
                obtain rfl := Option.some.inj hline
                exact hpicked
    | closed line sourceWarehouseId =>
        change pickedAt (storeShortClose line sourceWarehouseId db) toLineId =
          pickedAt db toLineId + 0
        rw [add_zero, pickedAt, pickedAt, storeShortClose_lines, Table.find?_updateKey]
        split
        · cases db.transferOrderLines.find? toLineId <;> rfl
        · rfl
  · have hsame := hcommits.unlocked hknows ((Bool.not_eq_true _).mp hlocked)
    have hnone : answer.picks toLineId = 0 := by
      cases hcommits with
      | picked pick version promotes =>
          rw [LineAnswer.picks, if_neg]
          exact fun hhere => hlocked (decide_eq_true hhere)
      | _ => rfl
    rw [pickedAt, hsame, hnone, add_zero, pickedAt]

/-! ## Requests one after another -/

theorem linesOrdered_of_rows (hordered : LinesOrdered db)
    (hlines : db'.transferOrderLines = db.transferOrderLines) : LinesOrdered db' := by
  rw [LinesOrdered, hlines]
  exact hordered

theorem commitRows_within {source : ℕ} {rows : List ImportRow}
    (hrequested : ∀ row ∈ rows, 0 < row.requestedQty) :
    ∀ entry ∈ (commitRows source rows db).2,
      0 ≤ entry.committedQty ∧ entry.committedQty ≤ entry.row.requestedQty := by
  induction rows generalizing db with
  | nil =>
      intro entry hentry
      cases hentry
  | cons row rest ih =>
      intro entry hentry
      cases List.mem_cons.mp hentry with
      | inl hfirst =>
          have hrow := hrequested row List.mem_cons_self
          rw [hfirst]
          dsimp only
          omega
      | inr hrest =>
          exact ih (fun other hother => hrequested other (List.mem_cons_of_mem _ hother))
            entry hrest

/-- Lines are inserted in order. -/
theorem insertTransferLines_ordered {numbered : List (CommittedRow × ℕ)}
    (hordered : LinesOrdered db)
    (hwithin : ∀ entry ∈ numbered, 0 ≤ entry.1.committedQty ∧
      entry.1.committedQty ≤ entry.1.row.requestedQty) :
    LinesOrdered (run (insertTransferLine toId) db numbered) := by
  refine run_invariant (fun state entry hstate hentry => ?_) hordered (along_of_mem hwithin db)
  intro line hline
  cases List.mem_append.mp hline with
  | inl hold => exact hstate line hold
  | inr hnew =>
      rw [List.mem_singleton.mp hnew]
      refine ⟨le_rfl, le_rfl, hentry.1, hentry.2, fun _ => rfl, ?_⟩
      dsimp only
      split
      · rintro (hpicked | hpicked) <;> cases hpicked
      · rintro (hpicked | hpicked) <;> cases hpicked

theorem import_ordered {request : ImportRequest} {result : ImportedTransferOrder}
    (himported : importTransferOrder db request = .ok (db', result))
    (hordered : LinesOrdered db) : LinesOrdered db' := by
  simp only [importTransferOrder, importRows, bind_eq_ok, require_eq_ok, orThrow_eq_ok,
    pure_eq_ok, Prod.mk.injEq] at himported
  obtain ⟨-, -, source, -, destination, -, -, -, opened, hopened, rfl, -⟩ := himported
  have hlines := insertHeader_lines (sameTransfers_commitRows ..) hopened
  apply insertTransferLines_ordered (linesOrdered_of_rows hordered hlines)
  intro entry hentry
  have hmem : entry.1 ∈ (commitRows source _ db).2 := List.fst_mem_of_mem_zipIdx hentry
  apply commitRows_within _ entry.1 hmem
  intro row hrow
  have hmem : row ∈ importedRows db request := mem_orderBy.mp hrow
  exact importedRows_requested hmem

theorem Picked.ordered {quantity : ℤ} (hpicked : Picked db toId toLineId quantity db')
    (hordered : LinesOrdered db) : LinesOrdered db' := by
  obtain ⟨line, hfound, hpickable, hfits⟩ := hpicked.line
  have hkey : line.toLineId = toLineId := Table.find?_key hfound
  subst hkey
  intro after hafter
  rw [hpicked.lines] at hafter
  obtain ⟨row, hrow, rfl⟩ := Table.exists_of_mem_updateKey hafter
  split
  · rename_i hhere
    have hsame : row = line := List.inj_on_of_nodup_map db.transferOrderLines.keys_nodup hrow
      (Table.find?_mem hfound) hhere
    have hmatches : pickMatches quantity row = true := by
      rw [hsame]
      exact decide_eq_true ⟨hfits, hpickable⟩
    exact (hordered row hrow).pick hpicked.positive hmatches
  · exact hordered row hrow

theorem Approved.ordered {ctx : RequestContext} {toApprovalId : ℕ}
    {header : TransferOrder} {approval : TransferOrderApproval} {moved : Db}
    (happroved : Approved ctx toId toApprovalId header approval db moved db')
    (hordered : LinesOrdered db) : LinesOrdered db' := by
  apply linesOrdered_of_rows _ happroved.lines
  refine moveEntries_induct (fun _ state => LinesOrdered state) (fun _ _ _ _ hstate => hstate)
    ?_ happroved.moves hordered
  intro entry rest state next hunits hstate line hline
  rw [hunits.lines] at hline
  obtain ⟨row, hrow, rfl⟩ := Table.exists_of_mem_updateKey hline
  split
  · rename_i hhere
    exact (hstate row hrow).approve hunits.positive (hunits.fits row hrow hhere)
  · exact hstate row hrow

theorem ShortClosed.ordered (hshort : ShortClosed toId toLineId db db')
    (hordered : LinesOrdered db) : LinesOrdered db' := by
  intro line hline
  rw [hshort.lines] at hline
  obtain ⟨row, hrow, rfl⟩ := Table.exists_of_mem_updateKey hline
  split
  · exact (hordered row hrow).shortClose
  · exact hordered row hrow

theorem submitPicks_lines (db : Db) (toId : ℕ) (username : String) :
    (submitPicks db toId username).transferOrderLines = db.transferOrderLines := by
  cases submitPicks_cases db toId username with
  | inl hsame => rw [hsame]
  | inr hsubmitted => exact hsubmitted.lines

/-- Requests one after another keep the lines in order. -/
theorem LinesOrdered.serve (call : TransferCall) (hordered : LinesOrdered db) :
    LinesOrdered (serveTransfer db call) := by
  obtain ⟨ctx, request⟩ := call
  have hwrites := serveTransfer_writes ctx request db
  generalize serveTransfer db ⟨ctx, request⟩ = db' at hwrites ⊢
  cases hwrites with
  | nothing hsame => exact linesOrdered_of_rows hordered hsame.lines
  | imports hserved => exact import_ordered hserved hordered
  | picks hpicked => exact hpicked.ordered hordered
  | submits toId =>
      exact linesOrdered_of_rows hordered (submitPicks_lines db toId ctx.username)
  | completes hserved =>
      apply linesOrdered_of_rows hordered
      rw [(completeBatch_transfers hserved).lines]
      exact run_unchanged Db.transferOrderLines
        (fun state toId => submitPicks_lines state toId ctx.username) db _
  | approves _ happroved => exact happroved.ordered hordered
  | rejects hrejected => exact linesOrdered_of_rows hordered hrejected.lines
  | cancels hcancelled => exact linesOrdered_of_rows hordered hcancelled.lines
  | deletes hdeleted =>
      intro line hline
      rw [hdeleted.lines] at hline
      exact hordered line (List.mem_of_mem_filter hline)
  | closes hclosed => exact hclosed.ordered hordered

theorem linesOrdered_run (hnone : NoTransfers db) (calls : List TransferCall) :
    LinesOrdered (run serveTransfer db calls) := by
  have hstart : LinesOrdered db := by
    intro line hline
    rw [hnone.2.1] at hline
    cases hline
  exact run_invariant (fun _ call hordered (_ : True) => hordered.serve call) hstart
    (along_forall (fun _ _ => trivial) _ _)

/-! ## Requests beside each other -/

variable {Ticket : Type} [Fintype Ticket] [DecidableEq Ticket]

/-- The transactions after these steps, from what the calls have left. -/
def lineRun (requests : Ticket → LineRequest) (db : Db) (steps : List (Step Ticket)) :
    Service Db Ticket LineMemory LineAnswer :=
  run (Sessions.serve lineProgram requests) (opened lineProgram requests db) steps

/-- The units that picks have reported as picked of a line. -/
def reportedPicks (requests : Ticket → LineRequest)
    (service : Service Db Ticket LineMemory LineAnswer) (toLineId : ℕ) : ℤ :=
  answeredWorth requests (fun _ => LineAnswer.picks toLineId) service

theorem pickedAt_lineRun (requests : Ticket → LineRequest) (hordered : LinesOrdered db)
    (steps : List (Step Ticket)) (toLineId : ℕ) :
    pickedAt (lineRun requests db steps).world toLineId =
      pickedAt db toLineId + reportedPicks requests (lineRun requests db steps) toLineId := by
  have hcommit : ∀ request memory isLocked world next answer, LinesOrdered world →
      LineMemory.Knows world memory →
        lineProgram.statement request memory isLocked world = .commit next answer →
          pickedAt next toLineId = pickedAt world toLineId + answer.picks toLineId :=
    fun _ _ _ _ _ _ _ hknows hcommit => (line_commits hcommit).picks hknows toLineId
  have hrollback : ∀ request memory isLocked world answer,
      lineProgram.statement request memory isLocked world = .rollback answer →
        LineAnswer.picks toLineId answer = 0 := by
    intro request memory isLocked world answer hrollback
    obtain ⟨error, rfl⟩ := line_refuses hrollback
    rfl
  exact balance_run_steady line_outline.moded hcommit hrollback hordered steps

/-- From a database without transfer orders, after requests served one by one and then
others beside each other in any order of statements: every line is in order, and its picks
have grown by what the picks beside each other have reported. -/
theorem line_quantities_ordered {db : Db} (hnone : NoTransfers db)
    (calls : List TransferCall) (requests : Ticket → LineRequest)
    (steps : List (Step Ticket)) :
    ∀ line ∈ (lineRun requests (run serveTransfer db calls) steps).world.transferOrderLines.rows,
      LineOrdered line ∧
        line.pickedQty = pickedAt (run serveTransfer db calls) line.toLineId +
          reportedPicks requests (lineRun requests (run serveTransfer db calls) steps)
            line.toLineId := by
  have hordered := linesOrdered_run hnone calls
  intro line hline
  refine ⟨(sound_run_always line_outline hordered steps).inv line hline, ?_⟩
  rw [← pickedAt_lineRun requests hordered, pickedAt_of_mem hline]

/-! ## Two pickers, an approval and a short-close -/

/-- A transfer of three units, its picking started. -/
def startedTransfer : List TransferRequest := [SmallTransfer.transfer "TO-1" 3, .startToPicking 1]

/-- Two pickers confirm two of the three units each, their picks are submitted, and the
line is short-closed. -/
def busyLine : Fin 4 → LineRequest
  | 0 => .confirmPick (SmallWarehouse.pat 5) (SmallWarehouse.confirm 1 2)
  | 1 => .confirmPick (SmallWarehouse.pat 6) (SmallWarehouse.confirm 1 2)
  | 2 => .submitPicks (SmallWarehouse.pat 7) 1
  | 3 => .shortClose 1 1

/-- The second picker finds the task pending and waits for the first to commit; then the
line is too full. -/
def busySteps : List (Step (Fin 4)) :=
  [.advance 0, .advance 1, .advance 0, .advance 1, .advance 0, .advance 3, .advance 0,
    .advance 0, .advance 1, .advance 1, .advance 2, .advance 3, .advance 2, .advance 3,
    .advance 2]

/-- The line they leave. -/
def lineLeft : TransferOrderLine where
  toLineId := 1
  toId := 1
  itemId := 1
  lineNumber := 1
  requestedQty := 3
  committedQty := 3
  pickedQty := 2
  status := .toLineShortClosed

theorem line_quantities_ordered_busy :
    LineOrdered lineLeft ∧
      lineLeft.pickedQty = pickedAt (SmallTransfer.after startedTransfer) 1 +
        reportedPicks busyLine (lineRun busyLine (SmallTransfer.after startedTransfer)
          busySteps) 1 :=
  line_quantities_ordered (by decide) (SmallTransfer.calls startedTransfer) busyLine busySteps
    lineLeft (by decide)

end SentryWms.TransferOrders

import SentryWms.TransferOrders.Approvals

/-!
# The rows of a transfer order

Lines and approvals name an order that was inserted, and a snapshot lists lines of its
own order, after every run of requests.  So what a request does to one order it does to
no other.
-/

namespace SentryWms.TransferOrders

open Relational Picking

/-! ## Owners -/

/-- A snapshot lists stored lines of its own order. -/
def SnapshotOwned (db : Db) (approval : TransferOrderApproval) : Prop :=
  ∀ entry ∈ approval.linesSnapshot, entry.1 < db.transferOrderLines.nextKey ∧
    ∀ line ∈ db.transferOrderLines.rows, line.toLineId = entry.1 → line.toId = approval.toId

/-- Lines and approvals belong to orders that were inserted, and snapshots to theirs. -/
structure Owned (db : Db) : Prop where
  lines : ∀ line ∈ db.transferOrderLines.rows, line.toId < db.transferOrders.nextKey
  approvals : ∀ approval ∈ db.transferOrderApprovals.rows, approval.toId < db.transferOrders.nextKey
  snapshots : ∀ approval ∈ db.transferOrderApprovals.rows, SnapshotOwned db approval

variable {db db' : Db}

theorem NoTransfers.owned (hnone : NoTransfers db) : Owned db where
  lines := by simp [hnone.2.1]
  approvals := by simp [hnone.2.2]
  snapshots := by simp [hnone.2.2]

/-- Only the keys and the owners of the rows matter. -/
theorem Owned.of_rows (howned : Owned db)
    (horders : db.transferOrders.nextKey ≤ db'.transferOrders.nextKey)
    (hnext : db.transferOrderLines.nextKey ≤ db'.transferOrderLines.nextKey)
    (hlines : ∀ line ∈ db'.transferOrderLines.rows,
      (∃ old ∈ db.transferOrderLines.rows, old.toLineId = line.toLineId ∧ old.toId = line.toId) ∨
      (db.transferOrderLines.nextKey ≤ line.toLineId ∧ line.toId < db'.transferOrders.nextKey))
    (happrovals : ∀ approval ∈ db'.transferOrderApprovals.rows,
      approval.toId < db.transferOrders.nextKey ∧ SnapshotOwned db approval) :
    Owned db' where
  lines := by
    intro line hline
    cases hlines line hline with
    | inl hold =>
        obtain ⟨old, hold, -, horder⟩ := hold
        rw [← horder]
        exact (howned.lines old hold).trans_le horders
    | inr hnew => exact hnew.2
  approvals := fun approval happroval => (happrovals approval happroval).1.trans_le horders
  snapshots := by
    intro approval happroval entry hentry
    obtain ⟨hknown, hsame⟩ := (happrovals approval happroval).2 entry hentry
    refine ⟨hknown.trans_le hnext, ?_⟩
    intro line hline hkey
    cases hlines line hline with
    | inl hold =>
        obtain ⟨old, hold, hline, horder⟩ := hold
        rw [← horder]
        exact hsame old hold (hline.trans hkey)
    | inr hnew =>
        have := hnew.1
        omega

/-- Approvals that were there are still owned. -/
theorem Owned.kept (howned : Owned db)
    (happrovals : ∀ approval ∈ db'.transferOrderApprovals.rows,
      ∃ old ∈ db.transferOrderApprovals.rows, old.toId = approval.toId ∧
        old.linesSnapshot = approval.linesSnapshot) :
    ∀ approval ∈ db'.transferOrderApprovals.rows,
      approval.toId < db.transferOrders.nextKey ∧ SnapshotOwned db approval := by
  intro approval happroval
  obtain ⟨old, hold, horder, hsnapshot⟩ := happrovals approval happroval
  refine ⟨horder ▸ howned.approvals old hold, ?_⟩
  rw [SnapshotOwned, ← hsnapshot, ← horder]
  exact howned.snapshots old hold

/-- A request that inserts nothing, and rewrites neither keys nor owners nor snapshots. -/
theorem Owned.of_kept (howned : Owned db)
    (horders : db'.transferOrders.nextKey = db.transferOrders.nextKey)
    (hnext : db'.transferOrderLines.nextKey = db.transferOrderLines.nextKey)
    (hlines : ∀ line ∈ db'.transferOrderLines.rows,
      ∃ old ∈ db.transferOrderLines.rows, old.toLineId = line.toLineId ∧ old.toId = line.toId)
    (happrovals : ∀ approval ∈ db'.transferOrderApprovals.rows,
      ∃ old ∈ db.transferOrderApprovals.rows, old.toId = approval.toId ∧
        old.linesSnapshot = approval.linesSnapshot) : Owned db' :=
  howned.of_rows horders.ge hnext.ge (fun line hline => Or.inl (hlines line hline))
    (howned.kept happrovals)

theorem Owned.same (howned : Owned db) (hsame : SameTransfers db db') : Owned db' := by
  apply howned.of_kept
  · rw [hsame.orders]
  · rw [hsame.lines]
  · rw [hsame.lines]
    exact fun line hline => ⟨line, hline, rfl, rfl⟩
  · rw [hsame.approvals]
    exact fun approval happroval => ⟨approval, happroval, rfl, rfl⟩

theorem Owned.submit {toId : ℕ} {username : String} (howned : Owned db)
    (hsubmitted : Submitted db toId username db') : Owned db' := by
  obtain ⟨header, hheader, -⟩ := hsubmitted.header
  have hstored : toId < db.transferOrders.nextKey :=
    Table.find?_key hheader ▸ db.transferOrders.keys_lt header (Table.find?_mem hheader)
  apply howned.of_rows
  · rw [hsubmitted.orders]
    exact le_rfl
  · rw [hsubmitted.lines]
  · rw [hsubmitted.lines]
    exact fun line hline => Or.inl ⟨line, hline, rfl, rfl⟩
  · rw [hsubmitted.approvals]
    intro approval happroval
    cases List.mem_append.mp happroval with
    | inl hold => exact ⟨howned.approvals approval hold, howned.snapshots approval hold⟩
    | inr hnew =>
        rw [List.mem_singleton.mp hnew]
        refine ⟨hstored, ?_⟩
        intro entry hentry
        obtain ⟨line, hline, rfl⟩ := List.mem_map.mp hentry
        obtain ⟨hmem, horder, -⟩ := mem_unsubmittedLines.mp hline
        refine ⟨db.transferOrderLines.keys_lt line hmem, ?_⟩
        intro other hother hkey
        rw [List.inj_on_of_nodup_map db.transferOrderLines.keys_nodup hother hmem hkey]
        exact horder

/-- A rewriting of lines that keeps their keys and owners, and whatever is not listed. -/
structure CreditsListed (entries : List (ℕ × ℕ × ℤ))
    (credit : TransferOrderLine → TransferOrderLine) : Prop where
  key : ∀ line, (credit line).toLineId = line.toLineId
  order : ∀ line, (credit line).toId = line.toId
  unlisted : ∀ line, (∀ entry ∈ entries, entry.1 ≠ line.toLineId) → credit line = line

/-- The credit of one more entry. -/
def creditNext (entry : ℕ × ℕ × ℤ) (credit : TransferOrderLine → TransferOrderLine)
    (line : TransferOrderLine) : TransferOrderLine :=
  if (credit line).toLineId = entry.1 then addApproved entry.2.2 (credit line) else credit line

variable {entries : List (ℕ × ℕ × ℤ)} {row : ImportRow} {request : ImportRequest}

theorem CreditsListed.next {credit : TransferOrderLine → TransferOrderLine}
    (hcredits : CreditsListed entries credit) {entry : ℕ × ℕ × ℤ}
    (hentry : entry ∈ entries) :
    CreditsListed entries (creditNext entry credit) where
  key := by
    intro line
    rw [creditNext]
    split <;> exact hcredits.key line
  order := by
    intro line
    rw [creditNext]
    split <;> exact hcredits.order line
  unlisted := by
    intro line hunlisted
    rw [creditNext, if_neg]
    · exact hcredits.unlisted line hunlisted
    · rw [hcredits.key]
      exact fun hhere => hunlisted entry hentry hhere.symm

/-- Moving the entries of a snapshot credits lines that it lists. -/
theorem moveEntries_credits {now : ℕ} {header : TransferOrder}
    (hmoved : moveEntries now header entries db = .ok db') :
    db'.transferOrderLines.nextKey = db.transferOrderLines.nextKey ∧
      ∃ credit, CreditsListed entries credit ∧
        db'.transferOrderLines.rows = db.transferOrderLines.rows.map credit := by
  have hwalk := moveEntries_induct (fun rest state => rest ⊆ entries ∧
      state.transferOrderLines.nextKey = db.transferOrderLines.nextKey ∧
      ∃ credit, CreditsListed entries credit ∧
        state.transferOrderLines.rows = db.transferOrderLines.rows.map credit)
    (by
      rintro entry rest state _ ⟨hlisted, hstate⟩
      exact ⟨List.subset_of_cons_subset hlisted, hstate⟩)
    (by
      rintro entry rest state next hunits ⟨hlisted, hnext, credit, hcredits, hrows⟩
      refine ⟨List.subset_of_cons_subset hlisted, ?_, creditNext entry credit,
        hcredits.next (hlisted List.mem_cons_self), ?_⟩
      · rw [hunits.lines]
        exact hnext
      · rw [hunits.lines, Table.updateKey, Table.update]
        change state.transferOrderLines.rows.map _ = _
        rw [hrows, List.map_map]
        apply List.map_congr_left
        intro line _
        simp only [Function.comp, decide_eq_true_eq, creditNext])
    hmoved
    ⟨List.Subset.refl entries, rfl, id, ⟨fun _ => rfl, fun _ => rfl, fun _ _ => rfl⟩,
      (List.map_id _).symm⟩
  exact hwalk.2

/-! ## Imported lines -/

/-- The records of an import that passed their checks. -/
def importedRows (db : Db) (request : ImportRequest) : List ImportRow :=
  (readRecords db request.records).filterMap Sum.getRight?

theorem readRecord_requested {record : ImportRecord} {rowIndex : ℕ}
    (hread : readRecord db record rowIndex = .inr row) : 0 < row.requestedQty := by
  rw [readRecord] at hread
  split at hread
  · rename_i hvalid
    split at hread
    · cases hread
    · cases hread
      simp only [validRecord, decide_eq_true_eq] at hvalid
      exact hvalid.2.2.2.1
  · cases hread

theorem importedRows_requested (hrow : row ∈ importedRows db request) : 0 < row.requestedQty := by
  obtain ⟨read, hread, hright⟩ := List.mem_filterMap.mp hrow
  obtain ⟨⟨record, rowIndex⟩, -, hrecord⟩ := List.mem_map.mp hread
  cases read with
  | inl error => cases hright
  | inr found =>
      cases hright
      exact readRecord_requested hrecord

theorem insertHeader_lines {source destination : ℕ} {before reserved opened : Db}
    (hreserved : SameTransfers before reserved)
    (hopened : insertHeader request source destination before reserved = .ok opened) :
    opened.transferOrderLines = before.transferOrderLines := by
  cases insertHeader_ok hopened with
  | inl hfirst =>
      rw [(insertTransferOrder_ok hfirst).2]
      exact hreserved.lines
  | inr hretry => rw [(insertTransferOrder_ok hretry.2).2]

/-! ## All requests -/

theorem Owned.submitAll (howned : Owned db) (toIds : List ℕ) (username : String) :
    Owned (run (fun db toId => submitPicks db toId username) db toIds) := by
  refine run_invariant (fun state toId hstate (_ : True) => ?_) howned
    (along_forall (fun _ _ => trivial) _ _)
  cases submitPicks_cases state toId username with
  | inl hsame => rwa [hsame]
  | inr hsubmitted => exact hstate.submit hsubmitted

/-- Every request keeps the owners. -/
theorem Owned.serve {call : TransferCall} (howned : Owned db) : Owned (serveTransfer db call) := by
  obtain ⟨ctx, request⟩ := call
  have hwrites := serveTransfer_writes ctx request db
  generalize serveTransfer db ⟨ctx, request⟩ = db' at hwrites ⊢
  cases hwrites with
  | nothing hsame => exact howned.same hsame
  | imports hserved =>
      have himported := importTransferOrder_imported hserved
      obtain ⟨header, -, -, -, added, hkey, -, -, -, -, hlines, -, hadded⟩ := himported.written
      apply howned.of_rows
      · rw [himported.ordersNext]
        exact Nat.le_succ _
      · exact himported.linesNext
      · rw [hlines]
        intro line hline
        cases List.mem_append.mp hline with
        | inl hold => exact Or.inl ⟨line, hold, rfl, rfl⟩
        | inr hnew =>
            obtain ⟨hfresh, horder, -⟩ := hadded line hnew
            refine Or.inr ⟨hfresh, ?_⟩
            rw [horder, hkey, himported.ordersNext]
            exact Nat.lt_succ_self _
      · rw [himported.approvals]
        exact fun approval happroval =>
          ⟨howned.approvals approval happroval, howned.snapshots approval happroval⟩
  | picks hpicked =>
      apply howned.of_kept
      · rw [hpicked.orders]
        rfl
      · rw [hpicked.lines]
        rfl
      · rw [hpicked.lines]
        intro line hline
        obtain ⟨row, hrow, rfl⟩ := Table.exists_of_mem_updateKey hline
        refine ⟨row, hrow, ?_⟩
        split <;> exact ⟨rfl, rfl⟩
      · rw [hpicked.approvals]
        exact fun approval happroval => ⟨approval, happroval, rfl, rfl⟩
  | submits toId => exact howned.submitAll [toId] ctx.username
  | completes hserved =>
      exact (howned.submitAll _ ctx.username).same (completeBatch_transfers hserved)
  | approves _ happroved =>
      obtain ⟨hnext, credit, hcredits, hrows⟩ := moveEntries_credits happroved.moves
      apply howned.of_kept
      · rw [happroved.orders]
        split <;> rfl
      · rw [happroved.lines, hnext]
      · rw [happroved.lines, hrows]
        intro line hline
        obtain ⟨old, hold, rfl⟩ := List.mem_map.mp hline
        exact ⟨old, hold, (hcredits.key old).symm, (hcredits.order old).symm⟩
      · rw [happroved.approvals]
        intro row hrow
        obtain ⟨old, hold, rfl⟩ := Table.exists_of_mem_updateKey hrow
        refine ⟨old, hold, ?_⟩
        split <;> exact ⟨rfl, rfl⟩
  | rejects hrejected =>
      obtain ⟨approvedBy, happrovals⟩ := hrejected.approvals
      apply howned.of_kept
      · rw [hrejected.orders]
      · rw [hrejected.lines]
      · rw [hrejected.lines]
        exact fun line hline => ⟨line, hline, rfl, rfl⟩
      · rw [happrovals]
        intro row hrow
        obtain ⟨old, hold, rfl⟩ := Table.exists_of_mem_updateKey hrow
        refine ⟨old, hold, ?_⟩
        split <;> exact ⟨rfl, rfl⟩
  | cancels hcancelled =>
      apply howned.of_kept
      · rw [hcancelled.orders]
        rfl
      · rw [hcancelled.lines]
      · rw [hcancelled.lines]
        exact fun line hline => ⟨line, hline, rfl, rfl⟩
      · rw [hcancelled.approvals]
        exact fun approval happroval => ⟨approval, happroval, rfl, rfl⟩
  | deletes hdeleted =>
      apply howned.of_kept
      · rw [hdeleted.orders]
        rfl
      · rw [hdeleted.lines]
        rfl
      · rw [hdeleted.lines]
        exact fun line hline => ⟨line, List.mem_of_mem_filter hline, rfl, rfl⟩
      · rw [hdeleted.approvals]
        exact fun approval happroval => ⟨approval, happroval, rfl, rfl⟩
  | closes hshort =>
      apply howned.of_kept
      · rw [hshort.orders]
      · rw [hshort.lines]
        rfl
      · rw [hshort.lines]
        intro line hline
        obtain ⟨row, hrow, rfl⟩ := Table.exists_of_mem_updateKey hline
        refine ⟨row, hrow, ?_⟩
        split <;> exact ⟨rfl, rfl⟩
      · rw [hshort.approvals]
        exact fun approval happroval => ⟨approval, happroval, rfl, rfl⟩

end SentryWms.TransferOrders

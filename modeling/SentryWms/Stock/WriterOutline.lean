import SentryWms.Relational.Answers
import SentryWms.Stock.WriterSteps

/-!
# What holds between the statements of a stock request

The rows a transaction has written are locked, and where it found them; a write it is
about to make has its row there, whatever others commit meanwhile; and an adjustment under
review stays pending until its reviewer commits.
-/

namespace SentryWms.Stock

open Relational Sessions

variable {adjustment : InventoryAdjustment} {adjustmentId : ℕ}
  {request : MovementRequest} {memory : StockMemory}

/-! ## From one statement to the next -/

section Steps

variable {request : MovementRequest} {memory next : StockMemory} {isLocked : StockLock → Bool}
  {db : StockDb} {now : ℕ} {own : OwnWrites} {locks locks' : List StockLock}
  {write : StockWrite}

theorem UnderReview.mono (hlocks : locks ⊆ locks')
    (hreview : UnderReview locks db adjustment) : UnderReview locks' db adjustment :=
  ⟨hlocks hreview.locked, hreview.stored, hreview.pending⟩

theorem Backed.mono (hlocks : locks ⊆ locks') (hbacked : Backed locks db write) :
    Backed locks' db write where
  sane := hbacked.sane
  review := fun adjustment hadjustment =>
    (hbacked.review adjustment hadjustment).imp_left (UnderReview.mono hlocks)
  advised := fun row hrow => hlocks (hbacked.advised row hrow)

theorem Held.mono (hlocks : locks ⊆ locks') (hheld : Held now own locks db) :
    Held now own locks' db where
  placed := hheld.placed
  backed := fun write hmem => (hheld.backed write hmem).mono hlocks
  locked := fun write hmem inventoryId hid => hlocks (hheld.locked write hmem inventoryId hid)
  rejected := by
    intro adjustmentId hid
    obtain ⟨adjustment, hreview, hsame⟩ := hheld.rejected adjustmentId hid
    exact ⟨adjustment, hreview.mono hlocks, hsame⟩
  once := hheld.once

theorem Targets.placed {rows : StockRows} (htargets : Targets write rows)
    (hkey : ¬ KeyTaken write rows) : Placed write rows where
  touched := htargets.touched
  inserted := by
    intro row hrow
    refine ⟨?_, htargets.inserted row hrow⟩
    by_contra htaken
    exact hkey ⟨row, hrow, htaken⟩

theorem approvedBy_concat (writes : List StockWrite) (write : StockWrite) :
    approvedBy (writes ++ [write]) =
      approvedBy writes ++ (write.review.map InventoryAdjustment.adjustmentId).toList := by
  rw [approvedBy, List.filterMap_append, List.filterMap_cons, List.filterMap_nil]
  cases write.review <;> rfl

/-- A write that fits joins those the transaction holds. -/
theorem Held.written (hheld : Held now own locks db) (hfits : Fits now own locks db write)
    (hkey : ¬ KeyTaken write (own.inventory now db)) :
    Held now { own with writes := own.writes ++ [write] }
      (write.effect.rowIds.map .row ++ locks) db where
  placed := chain_concat.mpr ⟨hheld.placed, hfits.targets.placed hkey⟩
  backed := by
    intro written hmem
    cases List.mem_append.mp hmem with
    | inl hold => exact (hheld.backed written hold).mono (List.subset_append_right _ _)
    | inr hnew =>
        rw [List.mem_singleton.mp hnew]
        exact hfits.backed.mono (List.subset_append_right _ _)
  locked := by
    intro written hmem inventoryId hid
    cases List.mem_append.mp hmem with
    | inl hold => exact List.mem_append_right _ (hheld.locked written hold inventoryId hid)
    | inr hnew =>
        rw [List.mem_singleton.mp hnew] at hid
        exact List.mem_append_left _ (List.mem_map_of_mem hid)
  rejected := by
    intro adjustmentId hid
    obtain ⟨adjustment, hreview, hsame⟩ := hheld.rejected adjustmentId hid
    exact ⟨adjustment, hreview.mono (List.subset_append_right _ _), hsame⟩
  once := by
    change (approvedBy (own.writes ++ [write]) ++ own.rejected).Nodup
    rw [approvedBy_concat]
    cases hreview : write.review with
    | none =>
        rw [Option.map_none, Option.toList_none, List.append_nil]
        exact hheld.once
    | some adjustment =>
        have hfresh := hfits.fresh adjustment hreview
        rw [Option.map_some, Option.toList_some, List.append_assoc, List.singleton_append]
        exact (List.perm_middle.nodup_iff).mpr (List.nodup_cons.mpr ⟨hfresh, hheld.once⟩)

theorem Held.reject (hheld : Held now own locks db) (hreview : UnderReview locks db adjustment)
    (hfresh : adjustment.adjustmentId ∉ own.reviewed) :
    Held now { own with rejected := own.rejected ++ [adjustment.adjustmentId] } locks db where
  placed := hheld.placed
  backed := hheld.backed
  locked := hheld.locked
  rejected := by
    intro adjustmentId hid
    cases List.mem_append.mp hid with
    | inl hold => exact hheld.rejected adjustmentId hold
    | inr hnew => exact ⟨adjustment, hreview, (List.mem_singleton.mp hnew).symm⟩
  once := by
    change (approvedBy own.writes ++ (own.rejected ++ [adjustment.adjustmentId])).Nodup
    rw [← List.append_assoc]
    exact ((List.perm_append_singleton _ _).nodup_iff).mpr
      (List.nodup_cons.mpr ⟨hfresh, hheld.once⟩)

theorem known_start (request : MovementRequest) (db : StockDb) :
    Known request (stockProgram.start request) db where
  held :=
    { placed := trivial
      backed := by
        intro write hwrite
        cases hwrite
      locked := by
        intro write hwrite
        cases hwrite
      rejected := by
        intro adjustmentId hid
        cases hid
      once := List.nodup_nil }
  phase := trivial

theorem StockStep.acquires (hstep : StockStep request memory isLocked db next) :
    ∀ lock ∈ next.locks, lock ∈ memory.locks ∨ isLocked lock = false := by
  cases hstep with
  | advance _ _ _ hfree | skip _ hfree | replace _ hfree | reject _ hfree =>
      intro lock hlock
      exact (List.mem_append.mp hlock).symm.imp_right (hfree lock)
  | write write hfree hfits htwin hkey hpromised =>
      intro lock hlock
      refine (List.mem_append.mp hlock).symm.imp_right ?_
      intro htaken
      obtain ⟨inventoryId, hid, rfl⟩ := List.mem_map.mp htaken
      exact hfree inventoryId hid

/-- Each statement keeps what is known of its own transaction. -/
theorem StockStep.known (hstep : StockStep request memory isLocked db next)
    (hknown : Known request memory db) : Known request next db := by
  cases hstep with
  | advance wanted phase report hfree hphase htwin hreport hpromised =>
      exact ⟨hknown.held.mono (List.subset_append_right _ _), hphase hknown.phase⟩
  | skip wanted hfree hnext task rest htodo hnone =>
      exact ⟨hknown.held.mono (List.subset_append_right _ _), trivial⟩
  | replace wanted hfree hnext task task' rest htodo hreports =>
      refine ⟨hknown.held.mono (List.subset_append_right _ _), ?_⟩
      change AtPhase _ _ _ _ memory.phase
      rw [hnext]
      trivial
  | reject wanted hfree hnext task rest htodo hnone adjustment hreview hfresh =>
      exact ⟨(hknown.held.mono (List.subset_append_right _ _)).reject hreview hfresh, trivial⟩
  | write write hfree hfits htwin hkey hpromised =>
      exact ⟨hknown.held.written (hfits hknown.phase) hkey, trivial⟩

/-- Each statement keeps account of what is to be reported. -/
theorem StockStep.accounted (hstep : StockStep request memory isLocked db next)
    (haccounted : Accounted request memory db) : Accounted request next db := by
  have hremaining : ∀ report others, Promised memory report →
      Reports memory.todo.tail others → Remaining memory (report :: others) := by
    intro report others hpromised hothers
    cases hpromised with
    | inl hreport =>
        rw [Remaining, hreport]
        exact ⟨others, rfl, hothers⟩
    | inr hfirst =>
        obtain ⟨hnext, task, rest, htodo, hreport⟩ := hfirst
        rw [htodo] at hothers
        rw [Remaining, hnext]
        change Reports memory.todo _
        rw [htodo]
        exact Reports.cons hreport hothers
  have hskipped : ∀ changes (task : StockTask) rest, memory.phase = .next →
      memory.todo = task :: rest → task.action.mayReport [] →
        Reports memory.todo.tail changes → Remaining memory changes := by
    intro changes task rest hnext htodo hnone hchanges
    rw [htodo] at hchanges
    rw [Remaining, hnext]
    change Reports memory.todo _
    rw [htodo]
    exact Reports.cons hnone hchanges
  have hdone : ∀ todo : List StockTask, (StockPhase.next ≠ .next → todo ≠ []) :=
    fun _ hnext => absurd rfl hnext
  cases hstep with
  | advance wanted phase report hfree hphase htwin hreport hpromised =>
      constructor
      · intro _
        cases hpromised with
        | inl hold =>
            apply haccounted.working
            intro hnext
            rw [hnext] at hold
            cases hold
        | inr hfirst =>
            obtain ⟨_, task, rest, htodo, _⟩ := hfirst
            exact fun hnone => List.cons_ne_nil task rest (htodo.symm.trans hnone)
      · intro changes hchanges
        have hheld : (StockMemory.holding wanted (StockMemory.to phase memory)).phase.report =
            some report := hreport
        rw [Remaining, hheld] at hchanges
        obtain ⟨others, rfl, hothers⟩ := hchanges
        exact haccounted.reports _ (hremaining report others hpromised hothers)
  | skip _ _ hnext task rest htodo hnone | reject _ _ hnext task rest htodo hnone =>
      refine ⟨hdone _, ?_⟩
      intro changes hchanges
      exact haccounted.reports _ (hskipped changes task rest hnext htodo hnone hchanges)
  | replace wanted hfree hnext task task' rest htodo hreports =>
      refine ⟨fun _ => List.cons_ne_nil task' rest, ?_⟩
      intro changes hchanges
      apply haccounted.reports
      simp only [Remaining, hnext] at hchanges
      rw [Remaining, hnext]
      change Reports memory.todo _
      rw [htodo]
      cases hchanges with
      | cons hfirst hrest => exact Reports.cons (hreports _ hfirst) hrest
  | write write hfree hfits htwin hkey hpromised =>
      refine ⟨hdone _, ?_⟩
      intro changes hchanges
      have hreports := haccounted.reports _ (hremaining write.report changes hpromised hchanges)
      change Reports request.tasks ((memory.own.writes ++ [write]).map StockWrite.report ++ changes)
      rw [List.map_append, List.append_assoc]
      exact hreports

end Steps

/-! ## Beside a commit -/

section Stability

variable {db : StockDb} {now now' : ℕ} {own own' : OwnWrites} {locks locks' : List StockLock}
  {write : StockWrite}

/-- The rows a transaction inserts, as the others will see them. -/
def OwnWrites.inserts (own : OwnWrites) (identity : Identity) : Prop :=
  ∃ write ∈ own.writes, ∃ row ∈ write.effect.inserted, identity = identityOf row

theorem find?_adjustments (hnot : adjustmentId ∉ own.reviewed) :
    (own.adjustments db).find? adjustmentId = db.adjustments.find? adjustmentId := by
  rw [OwnWrites.reviewed, List.mem_append, not_or] at hnot
  rw [OwnWrites.adjustments, Table.find?_update, Table.find?_update]
  cases hstored : db.adjustments.find? adjustmentId with
  | none => rfl
  | some adjustment =>
      have hid := Table.find?_key hstored
      rw [← hid] at hnot
      simp only [Option.map_some, decide_eq_true_eq, if_neg hnot.1, if_neg hnot.2]

/-- What a transaction has reviewed, it has locked. -/
theorem Held.reviewed_locked (hheld : Held now own locks db)
    (hid : adjustmentId ∈ own.reviewed) : .adjustment adjustmentId ∈ locks := by
  cases List.mem_append.mp hid with
  | inl happroved =>
      obtain ⟨write, hwrite, hreview⟩ := List.mem_filterMap.mp happroved
      obtain ⟨adjustment, hadjustment, rfl⟩ := Option.map_eq_some_iff.mp hreview
      exact ((hheld.backed write hwrite).review adjustment hadjustment).1.locked
  | inr hrejected =>
      obtain ⟨adjustment, hreview, rfl⟩ := hheld.rejected adjustmentId hrejected
      exact hreview.locked

theorem Held.inserts_locked (hheld : Held now own locks db) {identity : Identity}
    (hinserts : own.inserts identity) : .row identity.inventoryId ∈ locks := by
  obtain ⟨write, hwrite, row, hrow, rfl⟩ := hinserts
  apply hheld.locked write hwrite
  rw [StockEffect.rowIds, hrow]
  exact List.mem_append_right _ (List.mem_map_of_mem List.mem_cons_self)

/-- What the committed rows have become. -/
theorem Held.grows (hheld : Held now own locks db) :
    Grows own.inserts db.inventory (own.commit now db).inventory :=
  grows_applyAll hheld.placed

variable (hheld : Held now own locks db) (hapart : ∀ lock ∈ locks, lock ∉ locks')

include hheld hapart

theorem UnderReview.stable (hreview : UnderReview locks' db adjustment) :
    UnderReview locks' (own.commit now db) adjustment where
  locked := hreview.locked
  stored := by
    change (own.adjustments db).find? adjustment.adjustmentId = some adjustment
    rw [find?_adjustments]
    · exact hreview.stored
    · intro hreviewed
      exact hapart _ (hheld.reviewed_locked hreviewed) hreview.locked
  pending := hreview.pending

theorem Backed.stable (hbacked : Backed locks' db write) :
    Backed locks' (own.commit now db) write where
  sane := hbacked.sane
  review := fun adjustment hadjustment =>
    (hbacked.review adjustment hadjustment).imp_left (UnderReview.stable hheld hapart)
  advised := hbacked.advised

/-- The ids of rows inserted on both sides differ. -/
theorem Held.apart (hother : Held now' own' locks' db) : ∀ write ∈ own'.writes,
    ∀ row ∈ write.effect.inserted, ∀ identity, own.inserts identity →
      identity.inventoryId ≠ row.inventoryId := by
  intro write hwrite row hrow identity hidentity hsame
  have hlocked : StockLock.row row.inventoryId ∈ locks' :=
    hother.inserts_locked ⟨write, hwrite, row, hrow, rfl⟩
  apply hapart _ (hheld.inserts_locked hidentity)
  rw [hsame]
  exact hlocked

theorem Held.stable (hother : Held now' own' locks' db) :
    Held now' own' locks' (own.commit now db) where
  placed := chain_placed_grows (hheld.apart hapart hother) hheld.grows hother.placed
  backed := fun write hwrite => Backed.stable hheld hapart (hother.backed write hwrite)
  locked := hother.locked
  rejected := by
    intro adjustmentId hid
    obtain ⟨adjustment, hreview, hsame⟩ := hother.rejected adjustmentId hid
    exact ⟨adjustment, hreview.stable hheld hapart, hsame⟩
  once := hother.once

/-- The view of a transaction beside a commit. -/
theorem Held.view_grows (hother : Held now' own' locks' db) :
    Grows own.inserts (own'.inventory now' db)
      (own'.inventory now' (own.commit now db)) :=
  grows_applyAll_both (hheld.apart hapart hother) hheld.grows hother.placed

theorem Fits.stable (hother : Held now' own' locks' db) (hfits : Fits now' own' locks' db write) :
    Fits now' own' locks' (own.commit now db) write where
  targets :=
    { touched := by
        intro inventoryId htouched
        obtain ⟨row, hrow, hid, hcell⟩ := hfits.targets.touched inventoryId htouched
        obtain ⟨row', hrow', hsame⟩ := List.mem_map.mp
          ((hheld.view_grows hapart hother).kept _ (List.mem_map_of_mem hrow))
        exact ⟨row', hrow', (congrArg Identity.inventoryId hsame).trans hid,
          (congrArg Identity.cell hsame).trans hcell⟩
      inserted := hfits.targets.inserted }
  backed := hfits.backed.stable hheld hapart
  fresh := hfits.fresh

end Stability

variable {other : MovementRequest} {memory' : StockMemory} {db : StockDb}

/-- What is known of a transaction survives the commits of others. -/
theorem Known.stable (hknown : Known request memory db)
    (hapart : ∀ lock ∈ memory.locks, lock ∉ memory'.locks)
    (hother : Known other memory' db) :
    Known other memory' (memory.own.commit request.now db) where
  held := Held.stable hknown.held hapart hother.held
  phase := by
    have hphase := hother.phase
    cases hat : memory'.phase with
    | next => trivial
    | advised cell warehouseId quantity lotNumber =>
        rw [hat] at hphase
        exact hphase
    | approving adjustment =>
        rw [hat] at hphase
        exact ⟨hphase.1.stable hknown.held hapart, hphase.2⟩
    | ready write =>
        rw [hat] at hphase
        exact Fits.stable hknown.held hapart hother.held hphase

/-! ## What the commits leave -/

/-- The units moved in the cells. -/
def movedIn (cells : Cell → Bool) (moves : List (StockWrite × ℤ)) : ℤ :=
  (moves.map fun entry => if cells entry.1.cell then entry.2 else 0).sum

/-- The adjustments approved since the opening. -/
def StockDb.approvals (db : StockDb) : List ℕ := approvedBy (db.moves.map Prod.fst)

/-- An adjustment as it was found pending, and is now approved. -/
structure Approval (opening db : StockDb) (write : StockWrite)
    (adjustment : InventoryAdjustment) : Prop where
  cell : write.cell = ⟨adjustment.itemId, adjustment.binId⟩
  change : write.change = adjustment.quantityChange
  found : opening.adjustments.find? adjustment.adjustmentId = some adjustment
  pending : adjustment.status = .adjPending
  approved : db.adjustments.find? adjustment.adjustmentId = some (setStatus .adjApproved adjustment)

/-- The tables and the record of moves agree. -/
structure Settled (opening db : StockDb) : Prop where
  nonNegative : NonNegative db.inventory
  units : ∀ cells, unitsIn cells db.inventory =
    unitsIn cells opening.inventory + movedIn cells db.moves
  approval : ∀ entry ∈ db.moves, ∀ adjustment ∈ entry.1.review,
    Approval opening db entry.1 adjustment
  once : db.approvals.Nodup
  pending : ∀ adjustmentId adjustment,
    db.adjustments.find? adjustmentId = some adjustment → adjustment.status = .adjPending →
      opening.adjustments.find? adjustmentId = some adjustment
  approved : ∀ adjustmentId adjustment,
    db.adjustments.find? adjustmentId = some adjustment → adjustment.status = .adjApproved →
      adjustmentId ∈ db.approvals ∨ opening.adjustments.find? adjustmentId = some adjustment
  events : db.events = opening.events ++ (db.moves.map Prod.fst).flatMap eventsOf
  received : ∀ entry ∈ db.moves, entry.1.effect.receives = true → entry.2 = entry.1.change

section Commits

variable {opening db : StockDb} {now : ℕ} {own : OwnWrites} {locks : List StockLock}

theorem settled_opening (hlog : opening.moves = [])
    (hrows : NonNegative opening.inventory) : Settled opening opening where
  nonNegative := hrows
  units := by
    intro cells
    rw [hlog, movedIn, List.map_nil, List.sum_nil, add_zero]
  approval := by
    intro entry hentry
    rw [hlog] at hentry
    cases hentry
  once := by
    rw [StockDb.approvals, hlog]
    exact List.nodup_nil
  pending := fun _ _ hfound _ => hfound
  approved := fun _ _ hfound _ => Or.inr hfound
  events := by
    rw [hlog]
    exact (List.append_nil _).symm
  received := by
    intro entry hentry
    rw [hlog] at hentry
    cases hentry

theorem ledger_fst (now : ℕ) (writes : List StockWrite) (rows : StockRows) :
    (ledger now writes rows).map Prod.fst = writes := by
  induction writes generalizing rows with
  | nil => rfl
  | cons write rest ih =>
      rw [ledger, List.map_cons, ih]

theorem movedIn_append (cells : Cell → Bool) (moves others : List (StockWrite × ℤ)) :
    movedIn cells (moves ++ others) = movedIn cells moves + movedIn cells others := by
  rw [movedIn, List.map_append, List.sum_append]
  rfl

theorem moves_commit (own : OwnWrites) (now : ℕ) (db : StockDb) :
    ((own.commit now db).moves.map Prod.fst) = db.moves.map Prod.fst ++ own.writes := by
  change (db.moves ++ ledger now own.writes db.inventory).map Prod.fst = _
  rw [List.map_append, ledger_fst]

theorem approvals_commit (own : OwnWrites) (now : ℕ) (db : StockDb) :
    (own.commit now db).approvals = db.approvals ++ approvedBy own.writes := by
  rw [StockDb.approvals, moves_commit, approvedBy, List.filterMap_append]
  rfl

theorem mem_approvedBy {writes : List StockWrite} :
    adjustmentId ∈ approvedBy writes ↔ ∃ write ∈ writes, ∃ adjustment ∈ write.review,
      adjustment.adjustmentId = adjustmentId := by
  simp only [approvedBy, List.mem_filterMap, Option.map_eq_some_iff, Option.mem_def]

/-- The status a commit gives to what its transaction has approved. -/
theorem Held.find?_approved (hheld : Held now own locks db)
    (hid : adjustment.adjustmentId ∈ approvedBy own.writes)
    (hstored : db.adjustments.find? adjustment.adjustmentId = some adjustment) :
    (own.adjustments db).find? adjustment.adjustmentId =
      some (setStatus .adjApproved adjustment) := by
  have hnot : adjustment.adjustmentId ∉ own.rejected := by
    intro hrejected
    exact (List.nodup_append.mp hheld.once).2.2 _ hid _ hrejected rfl
  have hkept : (setStatus .adjApproved adjustment).adjustmentId ∉ own.rejected := hnot
  rw [OwnWrites.adjustments, Table.find?_update, Table.find?_update, hstored]
  simp only [Option.map_some, decide_eq_true_eq, if_pos hid, if_neg hkept]

theorem find?_rejected (hid : adjustmentId ∈ own.rejected)
    (hstored : (own.adjustments db).find? adjustmentId = some adjustment) :
    adjustment.status = .adjRejected := by
  rw [OwnWrites.adjustments, Table.find?_update, Option.map_eq_some_iff] at hstored
  obtain ⟨viewed, hviewed, rfl⟩ := hstored
  rw [Table.find?_key hviewed, decide_eq_true hid, if_pos rfl]
  rfl

/-- An adjustment that is as it was, was not reviewed. -/
theorem Held.find?_reviewed (hheld : Held now own locks db)
    (hstored : (own.adjustments db).find? adjustmentId = some adjustment) :
    (db.adjustments.find? adjustmentId = some adjustment ∧ adjustmentId ∉ own.reviewed) ∨
      (adjustment.status = .adjApproved ∧ adjustmentId ∈ approvedBy own.writes) ∨
        adjustment.status = .adjRejected := by
  by_cases hrejected : adjustmentId ∈ own.rejected
  · exact Or.inr (Or.inr (find?_rejected hrejected hstored))
  · by_cases happroved : adjustmentId ∈ approvedBy own.writes
    · right
      left
      refine ⟨?_, happroved⟩
      obtain ⟨write, hwrite, approved, hreview, rfl⟩ := mem_approvedBy.mp happroved
      have hunder := ((hheld.backed write hwrite).review approved hreview).1
      rw [hheld.find?_approved happroved hunder.stored] at hstored
      cases hstored
      rfl
    · left
      have hnot : adjustmentId ∉ own.reviewed := by
        rw [OwnWrites.reviewed, List.mem_append]
        exact not_or.mpr ⟨happroved, hrejected⟩
      rw [find?_adjustments hnot] at hstored
      exact ⟨hstored, hnot⟩

theorem Settled.commit (hsettled : Settled opening db) (hheld : Held now own locks db) :
    Settled opening (own.commit now db) where
  nonNegative := nonNegative_applyAll (fun write hwrite => (hheld.backed write hwrite).sane)
    hsettled.nonNegative
  units := by
    intro cells
    calc
      unitsIn cells (own.commit now db).inventory =
          unitsIn cells db.inventory +
            movedIn cells (ledger now own.writes db.inventory) :=
        unitsIn_applyAll hheld.placed
      _ = unitsIn cells opening.inventory + movedIn cells (own.commit now db).moves := by
        rw [hsettled.units cells, add_assoc]
        exact congrArg _ (movedIn_append _ _ _).symm
  approval := by
    intro entry hentry adjustment hreview
    cases List.mem_append.mp hentry with
    | inl hold =>
        have happroval := hsettled.approval entry hold adjustment hreview
        refine { happroval with approved := ?_ }
        change (own.adjustments db).find? adjustment.adjustmentId = _
        rw [find?_adjustments, happroval.approved]
        intro hreviewed
        have hpending : ∃ pending, db.adjustments.find? adjustment.adjustmentId =
            some pending ∧ pending.status = .adjPending := by
          cases List.mem_append.mp hreviewed with
          | inl happroved =>
              obtain ⟨write, hwrite, found, hfound, hsame⟩ := mem_approvedBy.mp happroved
              have hunder := ((hheld.backed write hwrite).review found hfound).1
              rw [← hsame]
              exact ⟨found, hunder.stored, hunder.pending⟩
          | inr hrejected =>
              obtain ⟨found, hunder, hsame⟩ := hheld.rejected _ hrejected
              rw [← hsame]
              exact ⟨found, hunder.stored, hunder.pending⟩
        obtain ⟨pending, hfound, hstatus⟩ := hpending
        rw [happroval.approved] at hfound
        cases hfound
        cases hstatus
    | inr hnew =>
        have hwrite : entry.1 ∈ own.writes := by
          rw [← ledger_fst now own.writes db.inventory]
          exact List.mem_map_of_mem hnew
        obtain ⟨hunder, hcell, hchange⟩ := (hheld.backed entry.1 hwrite).review adjustment hreview
        exact
          { cell := hcell
            change := hchange
            found := hsettled.pending _ _ hunder.stored hunder.pending
            pending := hunder.pending
            approved := hheld.find?_approved
              (mem_approvedBy.mpr ⟨entry.1, hwrite, adjustment, hreview, rfl⟩)
              hunder.stored }
  once := by
    rw [approvals_commit, List.nodup_append]
    refine ⟨hsettled.once, (List.nodup_append.mp hheld.once).1, ?_⟩
    rintro adjustmentId hbefore other hnow rfl
    obtain ⟨written, hwritten, approved, hreview, hid⟩ := mem_approvedBy.mp hbefore
    obtain ⟨entry, hentry, rfl⟩ := List.mem_map.mp hwritten
    have happroval := hsettled.approval entry hentry approved hreview
    obtain ⟨write, hwrite, found, hfound, hsame⟩ := mem_approvedBy.mp hnow
    have hunder := ((hheld.backed write hwrite).review found hfound).1
    have hstored := hunder.stored
    rw [hsame, ← hid, happroval.approved] at hstored
    have hpending := hunder.pending
    rw [← Option.some_inj.mp hstored] at hpending
    cases hpending
  pending := by
    intro adjustmentId adjustment hstored hstatus
    rcases hheld.find?_reviewed hstored with hkept | happroved | hrejected
    · exact hsettled.pending adjustmentId adjustment hkept.1 hstatus
    · rw [happroved.1] at hstatus
      cases hstatus
    · rw [hrejected] at hstatus
      cases hstatus
  approved := by
    intro adjustmentId adjustment hstored hstatus
    rw [approvals_commit, List.mem_append]
    rcases hheld.find?_reviewed hstored with hkept | happroved | hrejected
    · exact (hsettled.approved adjustmentId adjustment hkept.1 hstatus).imp_left Or.inl
    · exact Or.inl (Or.inr happroved.2)
    · rw [hrejected] at hstatus
      cases hstatus
  events := by
    rw [moves_commit, List.flatMap_append, ← List.append_assoc, ← hsettled.events]
    rfl
  received := by
    intro entry hentry hreceives
    cases List.mem_append.mp hentry with
    | inl hold => exact hsettled.received entry hold hreceives
    | inr hnew =>
        have hchain : Chain (fun write rows => write.effect.receives = true →
            Exact write rows) now own.writes db.inventory :=
          Chain.of_forall fun write rows hreceives => exact_of_receives hreceives
        exact ledger_exact (fun write hwrite => (hheld.backed write hwrite).sane)
          hheld.placed hchain entry hnew hreceives

end Commits

/-! ## Every run -/

/-- The writes a condition covers find the rows as they need them when they are
committed. -/
def exactOn (covered : StockWrite → Prop) (request : MovementRequest) (memory : StockMemory)
    (db : StockDb) : Prop :=
  Chain (fun write rows => covered write → Exact write rows) request.now memory.own.writes
    db.inventory

instance (covered : StockWrite → Prop) [DecidablePred covered] (request : MovementRequest)
    (memory : StockMemory) (db : StockDb) : Decidable (exactOn covered request memory db) :=
  inferInstanceAs (Decidable (Chain _ _ _ _))

/-- What the commits leave, and the covered writes have moved what they report. -/
structure ExactMoves (covered : StockWrite → Prop) (opening db : StockDb) : Prop where
  settled : Settled opening db
  exact : ∀ entry ∈ db.moves, covered entry.1 → entry.2 = entry.1.change

theorem stock_acquires {next : StockMemory} {isLocked : StockLock → Bool}
    (hproceed : stockStatement request memory isLocked db = .proceed next) :
    ∀ lock, stockProgram.holds request next lock = true →
      stockProgram.holds request memory lock = true ∨ isLocked lock = false := by
  intro lock hlock
  rw [stockProgram, List.contains_iff_mem] at hlock
  change memory.locks.contains lock = true ∨ _
  rw [List.contains_iff_mem]
  exact (stockStatement_proceed hproceed).acquires lock hlock

theorem apart_of_holds (hapart : ∀ lock, stockProgram.holds request memory lock = true →
      stockProgram.holds other memory' lock = false) :
    ∀ lock ∈ memory.locks, lock ∉ memory'.locks := by
  intro lock hlock hother
  have hfree := hapart lock (List.contains_iff_mem.mpr hlock)
  change memory'.locks.contains lock = false at hfree
  rw [List.contains_iff_mem.mpr hother] at hfree
  cases hfree

theorem stock_outline (covered : StockWrite → Prop) (opening : StockDb) :
    Outline stockProgram (ExactMoves covered opening) Known (exactOn covered)
      fun _ _ _ _ _ => True where
  start := fun request db _ => known_start request db
  acquires := fun _ _ _ _ _ hproceed => stock_acquires hproceed
  proceeds := by
    intro request memory isLocked db next _ hknown hproceed
    exact (stockStatement_proceed hproceed).known hknown
  commits := by
    intro request memory isLocked db next answer hmoves hknown hexact hcommit
    obtain ⟨_, rfl, _⟩ := stockStatement_commit hcommit
    refine ⟨hmoves.settled.commit hknown.held, ?_⟩
    intro entry hentry hcovered
    cases List.mem_append.mp hentry with
    | inl hold => exact hmoves.exact entry hold hcovered
    | inr hnew =>
        exact ledger_exact (fun write hwrite => (hknown.held.backed write hwrite).sane)
          hknown.held.placed hexact entry hnew hcovered
  stable := by
    intro request memory isLocked db next answer other memory' _ hknown hother _ hapart _ hcommit
    obtain ⟨_, rfl, _⟩ := stockStatement_commit hcommit
    exact hknown.stable (apart_of_holds hapart) hother

/-- The account of a transaction is its own. -/
theorem accounted_outline :
    Outline stockProgram (fun _ => True) Accounted (fun _ _ _ => True)
      fun _ _ _ _ _ => True where
  start := by
    intro request db _
    refine ⟨fun hnext => absurd rfl hnext, ?_⟩
    intro changes hchanges
    exact hchanges
  acquires := fun _ _ _ _ _ hproceed => stock_acquires hproceed
  proceeds := by
    intro request memory isLocked db next _ haccounted hproceed
    exact (stockStatement_proceed hproceed).accounted haccounted
  commits := fun _ _ _ _ _ _ _ _ _ _ => trivial
  stable := by
    intro request memory isLocked db next answer other memory' _ _ hother _ _ _ _
    exact ⟨hother.working, hother.reports⟩

/-- The changes reported in the cells. -/
def reportedIn (cells : Cell → Bool) (changes : List (Cell × ℤ)) : ℤ :=
  (changes.map fun change => if cells change.1 then change.2 else 0).sum

/-- What an answer reports in the cells; only a commit reports anything. -/
def StockAnswer.reportedIn (cells : Cell → Bool) : StockAnswer → ℤ
  | .done changes => Stock.reportedIn cells changes
  | .refused | .failed => 0

/-- The changes of the moves recorded so far. -/
def changesIn (cells : Cell → Bool) (db : StockDb) : ℤ :=
  reportedIn cells (db.moves.map fun entry => entry.1.report)

section Runs

variable {Ticket : Type*} [Fintype Ticket] [DecidableEq Ticket]
  {requests : Ticket → MovementRequest} {opening : StockDb} {steps : List (Step Ticket)}

/-- A transaction that has committed reports the changes of its tasks. -/
theorem answered_reports (ticket : Ticket) (changes : List (Cell × ℤ))
    (hdone : (run (Sessions.serve stockProgram requests)
      (opened stockProgram requests opening) steps).stage ticket = .ended (some (.done changes))) :
    Reports (requests ticket).tasks changes := by
  have hanswered : Answered requests
      (fun request answer => ∀ changes, answer = .done changes → Reports request.tasks changes)
      (run (Sessions.serve stockProgram requests)
        (opened stockProgram requests opening) steps) := by
    refine answered_run ?_ ?_ accounted_outline trivial (along_forall clear_always _ steps)
    · intro request memory isLocked db next answer _ haccounted hcommit changes hchanges
      obtain ⟨htodo, _, rfl⟩ := stockStatement_commit hcommit
      cases hchanges
      have hnext : memory.phase = .next := by
        by_contra hphase
        exact haccounted.working hphase htodo
      have hreports := haccounted.reports [] (by
        rw [Remaining, hnext]
        change Reports memory.todo []
        rw [htodo]
        exact Reports.nil)
      rw [List.append_nil] at hreports
      exact hreports
    · intro request memory isLocked db answer _ _ hrollback changes hchanges
      exact absurd hchanges (stockStatement_rollback hrollback changes)
  exact hanswered ticket _ hdone changes rfl

theorem changesIn_commit (cells : Cell → Bool) (own : OwnWrites) (now : ℕ) (db : StockDb) :
    changesIn cells (own.commit now db) =
      changesIn cells db + reportedIn cells (own.writes.map StockWrite.report) := by
  have hreports : ((own.commit now db).moves.map fun entry => entry.1.report) =
      (db.moves.map fun entry => entry.1.report) ++ own.writes.map StockWrite.report := by
    have hwrites := congrArg (List.map StockWrite.report) (moves_commit own now db)
    rw [List.map_append, List.map_map, List.map_map] at hwrites
    exact hwrites
  rw [changesIn, hreports, reportedIn, List.map_append, List.sum_append]
  rfl

/-- The changes recorded are those the answers report. -/
theorem changesIn_run (cells : Cell → Bool) (hlog : opening.moves = []) :
    changesIn cells (run (Sessions.serve stockProgram requests)
        (opened stockProgram requests opening) steps).world =
      answeredWorth requests (fun _ => StockAnswer.reportedIn cells)
        (run (Sessions.serve stockProgram requests)
          (opened stockProgram requests opening) steps) := by
  have hopening : changesIn cells opening = 0 := by
    rw [changesIn, hlog]
    rfl
  rw [← zero_add (answeredWorth requests _ _), ← hopening]
  apply balance_run_steady accounted_outline.moded _ _ trivial steps
  · intro request memory isLocked db next answer _ _ hcommit
    obtain ⟨_, rfl, rfl⟩ := stockStatement_commit hcommit
    exact changesIn_commit cells memory.own request.now db
  · intro request memory isLocked db answer hrollback
    cases answer with
    | done changes => exact absurd rfl (stockStatement_rollback hrollback changes)
    | refused | failed => rfl

theorem exactMoves_run (covered : StockWrite → Prop) (hlog : opening.moves = [])
    (hrows : NonNegative opening.inventory)
    (hclear : Along (Sessions.serve stockProgram requests)
      (Clear stockProgram requests (exactOn covered) fun _ _ _ _ _ => True)
      (opened stockProgram requests opening) steps) :
    ExactMoves covered opening (run (Sessions.serve stockProgram requests)
      (opened stockProgram requests opening) steps).world := by
  have hopening : ExactMoves covered opening opening := by
    refine ⟨settled_opening hlog hrows, ?_⟩
    intro entry hentry
    rw [hlog] at hentry
    cases hentry
  exact (sound_run (stock_outline covered opening) hopening hclear).inv

end Runs

end SentryWms.Stock

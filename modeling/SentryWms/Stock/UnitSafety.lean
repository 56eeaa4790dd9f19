import SentryWms.Stock.WriterOutline

/-!
# Units moved and units reported

A transfer between warehouses sets its source row to what it read without a lock, less
the quantity; a pick lowers every lot row of the bin by the whole quantity, as far as there
are units; and the approval of an adjustment does as the transfer does, floored at zero.
Where each finds the rows as it needs them when it commits, the units are those at the
opening and what has been reported, and an approved adjustment has moved its change.
-/

namespace SentryWms.Stock

open Relational Sessions

/-! ## Transfers and corrections -/

/-- An item, wherever it is. -/
def anywhere (itemId : ℕ) (cell : Cell) : Bool := cell.itemId = itemId

/-- A transfer reports what it takes and what it puts. -/
theorem reports_interWarehouse {tasks : List StockTask} {changes : List (Cell × ℤ)}
    {itemId fromBinId toBinId toWarehouseId quantity : ℕ}
    (htasks : tasks.map StockTask.action =
      interWarehouseActions itemId fromBinId toBinId toWarehouseId quantity)
    (hreports : Reports tasks changes) :
    changes = [(⟨itemId, fromBinId⟩, -(quantity : ℤ)), (⟨itemId, toBinId⟩, (quantity : ℤ))] := by
  cases hreports with
  | nil => cases htasks
  | cons hsource hrest =>
      cases hrest with
      | nil => simp [interWarehouseActions] at htasks
      | cons htarget hnone =>
          cases hnone with
          | nil =>
              rw [interWarehouseActions, List.map_cons, List.map_cons, List.map_nil,
                List.cons.injEq, List.cons.injEq] at htasks
              rw [htasks.1] at hsource
              rw [htasks.2.1] at htarget
              cases hsource with
              | inl hlowered =>
                  rw [hlowered, htarget]
                  rfl
              | inr hpassed => cases hpassed.1
          | cons _ _ => simp [interWarehouseActions] at htasks

section Runs

variable {Ticket : Type*} [Fintype Ticket] [DecidableEq Ticket]

/-- Where every write finds the rows as it needs them, the units anywhere are those at the
opening and what the requests have reported; no row falls below zero, and a transfer
between warehouses neither adds to its item nor takes from it. -/
theorem units_follow_reports (requests : Ticket → MovementRequest) (opening : StockDb)
    (steps : List (Step Ticket)) (hlog : opening.moves = [])
    (hrows : NonNegative opening.inventory)
    (hclear : Along (Sessions.serve stockProgram requests)
      (Clear stockProgram requests (exactOn fun _ => True) fun _ _ _ _ _ => True)
      (opened stockProgram requests opening) steps) :
    let final := run (Sessions.serve stockProgram requests)
      (opened stockProgram requests opening) steps
    (∀ cells, unitsIn cells final.world.inventory = unitsIn cells opening.inventory +
      answeredWorth requests (fun _ => StockAnswer.reportedIn cells) final) ∧
    NonNegative final.world.inventory ∧
    (∀ ticket changes, final.stage ticket = .ended (some (.done changes)) →
      Reports (requests ticket).tasks changes) ∧
    (∀ ticket itemId fromBinId toBinId toWarehouseId quantity,
      (requests ticket).tasks.map StockTask.action =
          interWarehouseActions itemId fromBinId toBinId toWarehouseId quantity →
        (final.stage ticket).worth (StockAnswer.reportedIn (anywhere itemId)) = 0) := by
  have hmoves := exactMoves_run (fun _ => True) hlog hrows hclear
  refine ⟨?_, hmoves.settled.nonNegative, answered_reports, ?_⟩
  · intro cells
    rw [hmoves.settled.units cells, ← changesIn_run cells hlog]
    congr 1
    rw [movedIn, changesIn, reportedIn, List.map_map]
    congr 1
    apply List.map_congr_left
    intro entry hentry
    rw [hmoves.exact entry hentry trivial]
    rfl
  · intro ticket itemId fromBinId toBinId toWarehouseId quantity htasks
    cases hstage : (run (Sessions.serve stockProgram requests)
        (opened stockProgram requests opening) steps).stage ticket with
    | running memory => rfl
    | ended answer =>
        cases answer with
        | none => rfl
        | some answer =>
            cases answer with
            | refused | failed => rfl
            | done changes =>
                have hreports := reports_interWarehouse htasks
                  (answered_reports ticket changes hstage)
                rw [hreports]
                simp [Stage.worth, StockAnswer.reportedIn, reportedIn, anywhere]

end Runs

namespace Shelves

/-- Ten units of an item in one bin, and an adjustment by two of them under review. -/
def opening : StockDb where
  inventory :=
    { rows := [newRow 0 1 ⟨1, 1⟩ 1 10 none]
      nextKey := 10
      keys_nodup := by decide
      keys_lt := by decide }
  adjustments :=
    { rows := [⟨1, 1, 1, 1, 2, "found", .adjPending, "ann", none⟩]
      nextKey := 2
      keys_nodup := by decide
      keys_lt := by decide }
  countLines := []
  requireCountApprovalSeparation := none
  events := []
  moves := []

def request (actions : List StockAction) (newId : ℕ) : MovementRequest where
  username := "bo"
  now := 1
  tasks := actions.map fun action => ⟨action, 0, newId⟩

def statements {Ticket : Type} (ticket : Ticket) (count : ℕ) : List (Step Ticket) :=
  List.replicate count (.advance ticket)

/-- Two transfers of the item from its bin to another. -/
def transfers : Fin 2 → MovementRequest
  | 0 => request (interWarehouseActions 1 1 2 2 3) 10
  | 1 => request (interWarehouseActions 1 1 2 2 4) 11

/-- One transfer, a receipt, a pick and a corrected row of a file. -/
def mixed : Fin 4 → MovementRequest
  | 0 => request (interWarehouseActions 1 1 2 2 3) 10
  | 1 => request (receiptActions [⟨⟨1, 1⟩, 1, 5, none⟩]) 11
  | 2 => request [.confirmPick ⟨1, 1⟩ 2 2] 12
  | 3 => request (importActions [(⟨1, 1⟩, 1, -1)]) 13

def inTurn : List (Step (Fin 4)) :=
  statements 0 6 ++ statements 1 4 ++ statements 2 2 ++ statements 3 3

end Shelves

theorem units_follow_reports_in_turn :
    let final := run (Sessions.serve stockProgram Shelves.mixed)
      (opened stockProgram Shelves.mixed Shelves.opening) Shelves.inTurn
    unitsIn (anywhere 1) final.world.inventory = 12 ∧
      answeredWorth Shelves.mixed (fun _ => StockAnswer.reportedIn (anywhere 1)) final = 2 ∧
        unitsIn (anywhere 1) final.world.inventory =
          unitsIn (anywhere 1) Shelves.opening.inventory +
            answeredWorth Shelves.mixed
              (fun _ => StockAnswer.reportedIn (anywhere 1)) final := by
  have hclear : Along (Sessions.serve stockProgram Shelves.mixed)
      (Clear stockProgram Shelves.mixed (exactOn fun _ => True) fun _ _ _ _ _ => True)
      (opened stockProgram Shelves.mixed Shelves.opening) Shelves.inTurn := by
    decide +kernel
  exact ⟨by decide +kernel, by decide +kernel,
    (units_follow_reports Shelves.mixed Shelves.opening Shelves.inTurn rfl (by decide)
      hclear).1 (anywhere 1)⟩

/-- Both transfers read ten units.  The second commits; the first then sets what it has
worked out, and the four units the second took are there again. -/
theorem transfer_lost :
    let final := run (Sessions.serve stockProgram Shelves.transfers)
      (opened stockProgram Shelves.transfers Shelves.opening)
      (Shelves.statements 0 1 ++ Shelves.statements 1 6 ++ Shelves.statements 0 5)
    final.stage 0 = .ended (some (.done [(⟨1, 1⟩, -3), (⟨1, 2⟩, 3)])) ∧
      final.stage 1 = .ended (some (.done [(⟨1, 1⟩, -4), (⟨1, 2⟩, 4)])) ∧
        unitsIn (anywhere 1) Shelves.opening.inventory = 10 ∧
          unitsIn (anywhere 1) final.world.inventory = 14 := by
  decide +kernel

/-! ## Approved adjustments -/

/-- The moves that approve an adjustment. -/
def movesOf (adjustmentId : ℕ) (moves : List (StockWrite × ℤ)) : List (StockWrite × ℤ) :=
  moves.filter fun entry => entry.1.review.map InventoryAdjustment.adjustmentId = some adjustmentId

/-- The deltas of the `inventoryadjusted.completed` events of an adjustment. -/
def deltasOf (adjustmentId : ℕ) (events : List StockEvent) : List ℤ :=
  (events.filter fun event => event.eventType = .inventoryAdjustedCompleted ∧
    event.adjustmentId = adjustmentId).map StockEvent.quantityDelta

/-- The adjustment has moved its change once, in its bin, and its events say so. -/
structure AppliedOnce (opening db : StockDb) (adjustment : InventoryAdjustment) : Prop where
  move : ∃ write, movesOf adjustment.adjustmentId db.moves = [(write, adjustment.quantityChange)] ∧
    write.cell = ⟨adjustment.itemId, adjustment.binId⟩
  events : ∃ emitted, db.events = opening.events ++ emitted ∧
    deltasOf adjustment.adjustmentId emitted = [adjustment.quantityChange] ∧
    ∀ event ∈ emitted, event.adjustmentId = adjustment.adjustmentId →
      event.quantityDelta = adjustment.quantityChange

variable {adjustmentId : ℕ} {moves : List (StockWrite × ℤ)}

theorem movesOf_eq_nil (hnot : adjustmentId ∉ approvedBy (moves.map Prod.fst)) :
    movesOf adjustmentId moves = [] := by
  rw [movesOf, List.filter_eq_nil_iff]
  intro entry hentry hreview
  rw [decide_eq_true_eq] at hreview
  exact hnot (List.mem_filterMap.mpr ⟨entry.1, List.mem_map_of_mem hentry, hreview⟩)

/-- An adjustment approved once has one move. -/
theorem movesOf_eq_singleton {entry : StockWrite × ℤ}
    (honce : (approvedBy (moves.map Prod.fst)).Nodup) (hentry : entry ∈ moves)
    (hreview : entry.1.review.map InventoryAdjustment.adjustmentId = some adjustmentId) :
    movesOf adjustmentId moves = [entry] := by
  induction moves with
  | nil => cases hentry
  | cons first rest ih =>
      rw [List.map_cons, approvedBy, List.filterMap_cons] at honce
      cases hfirst : first.1.review.map InventoryAdjustment.adjustmentId with
      | none =>
          rw [hfirst] at honce
          have hne : entry ≠ first := by
            rintro rfl
            rw [hfirst] at hreview
            cases hreview
          rw [movesOf, List.filter_cons_of_neg (by simp [hfirst])]
          exact ih honce ((List.mem_cons.mp hentry).resolve_left hne)
      | some other =>
          rw [hfirst] at honce
          obtain ⟨hnew, hrest⟩ := List.nodup_cons.mp honce
          by_cases hsame : other = adjustmentId
          · subst hsame
            have hnone := movesOf_eq_nil hnew
            have hnot : entry ∉ rest := by
              intro hmem
              apply hnew
              exact List.mem_filterMap.mpr ⟨entry.1, List.mem_map_of_mem hmem, hreview⟩
            rw [movesOf, List.filter_cons_of_pos (by simp [hfirst])]
            rw [movesOf] at hnone
            rw [hnone, (List.mem_cons.mp hentry).resolve_right hnot]
          · have hne : entry ≠ first := by
              rintro rfl
              rw [hfirst] at hreview
              exact hsame (Option.some_inj.mp hreview)
            rw [movesOf, List.filter_cons_of_neg (by simp [hfirst, hsame])]
            exact ih hrest ((List.mem_cons.mp hentry).resolve_left hne)

/-- The deltas emitted are the changes of the adjustments approved. -/
theorem deltasOf_flatMap (adjustmentId : ℕ) (moves : List (StockWrite × ℤ)) :
    deltasOf adjustmentId ((moves.map Prod.fst).flatMap eventsOf) =
      (movesOf adjustmentId moves).map fun entry =>
        entry.1.review.elim 0 InventoryAdjustment.quantityChange := by
  induction moves with
  | nil => rfl
  | cons first rest ih =>
      rw [List.map_cons, List.flatMap_cons, deltasOf, List.filter_append, List.map_append,
        movesOf, List.filter_cons]
      rw [deltasOf] at ih
      rw [ih]
      cases hreview : first.1.review with
      | none =>
          simp [eventsOf, hreview, movesOf]
      | some adjustment =>
          by_cases hsame : adjustment.adjustmentId = adjustmentId <;>
            by_cases hcount : adjustment.cycleCountId.isSome = true <;>
              simp [eventsOf, hreview, hsame, hcount, movesOf]

theorem mem_eventsOf {write : StockWrite} {event : StockEvent}
    (hevent : event ∈ eventsOf write) : ∃ adjustment, write.review = some adjustment ∧
      event.adjustmentId = adjustment.adjustmentId ∧
        event.quantityDelta = adjustment.quantityChange := by
  rw [eventsOf] at hevent
  split at hevent
  · cases hevent
  · rename_i adjustment hreview
    refine ⟨adjustment, hreview, ?_⟩
    cases List.mem_append.mp hevent with
    | inl hcounted =>
        split at hcounted
        · rw [List.mem_singleton.mp hcounted]
          exact ⟨rfl, rfl⟩
        · cases hcounted
    | inr hcompleted =>
        rw [List.mem_singleton.mp hcompleted]
        exact ⟨rfl, rfl⟩

theorem appliedOnce {opening db : StockDb}
    (hmoves : ExactMoves (fun write => write.review.isSome = true) opening db)
    {adjustment : InventoryAdjustment}
    (hstored : db.adjustments.find? adjustment.adjustmentId = some adjustment)
    (hstatus : adjustment.status = .adjApproved)
    (hnow : opening.adjustments.find? adjustment.adjustmentId ≠ some adjustment) :
    AppliedOnce opening db adjustment := by
  have hid := (hmoves.settled.approved _ _ hstored hstatus).resolve_right hnow
  obtain ⟨write, hwrite, found, hreview, hsame⟩ := mem_approvedBy.mp hid
  obtain ⟨entry, hentry, rfl⟩ := List.mem_map.mp hwrite
  have happroval := hmoves.settled.approval entry hentry found hreview
  have heq : adjustment = setStatus .adjApproved found := by
    have happroved := happroval.approved
    rw [hsame, hstored] at happroved
    exact Option.some_inj.mp happroved
  have hmap : entry.1.review.map InventoryAdjustment.adjustmentId =
      some adjustment.adjustmentId := by
    rw [hreview, Option.map_some, hsame]
  have hone := movesOf_eq_singleton hmoves.settled.once hentry hmap
  have hchange : adjustment.quantityChange = found.quantityChange := by
    rw [heq]
    rfl
  have hmoved : entry.2 = adjustment.quantityChange := by
    rw [hchange, ← happroval.change]
    exact hmoves.exact entry hentry (by rw [hreview]; rfl)
  constructor
  · refine ⟨entry.1, ?_, ?_⟩
    · rw [hone, ← hmoved]
    · rw [happroval.cell, heq]
      rfl
  · refine ⟨_, hmoves.settled.events, ?_, ?_⟩
    · rw [deltasOf_flatMap, hone, List.map_singleton, hreview, hchange]
      rfl
    · intro event hevent hof
      obtain ⟨written, hwritten, hemitted⟩ := List.mem_flatMap.mp hevent
      obtain ⟨other, hother, rfl⟩ := List.mem_map.mp hwritten
      obtain ⟨reviewed, hreviewed, heventId, hdelta⟩ := mem_eventsOf hemitted
      have hfound := (hmoves.settled.approval other hother reviewed hreviewed).found
      rw [← heventId, hof, ← hsame, happroval.found] at hfound
      rw [hdelta, hchange, ← Option.some_inj.mp hfound]

section Runs

variable {Ticket : Type*} [Fintype Ticket] [DecidableEq Ticket]

/-- Where every approval finds the row as it needs it, an adjustment that has come to be
approved has moved its change once, whatever else has run; and the units anywhere are those
at the opening and all that was moved, a receipt having moved what it brought. -/
theorem approvals_move_their_change (requests : Ticket → MovementRequest) (opening : StockDb)
    (steps : List (Step Ticket)) (hlog : opening.moves = [])
    (hrows : NonNegative opening.inventory)
    (hclear : Along (Sessions.serve stockProgram requests)
      (Clear stockProgram requests (exactOn fun write => write.review.isSome = true)
        fun _ _ _ _ _ => True)
      (opened stockProgram requests opening) steps) :
    let final := (run (Sessions.serve stockProgram requests)
      (opened stockProgram requests opening) steps).world
    (∀ adjustment,
      final.adjustments.find? adjustment.adjustmentId = some adjustment →
        adjustment.status = .adjApproved →
          opening.adjustments.find? adjustment.adjustmentId ≠ some adjustment →
            AppliedOnce opening final adjustment) ∧
    (∀ cells, unitsIn cells final.inventory =
      unitsIn cells opening.inventory + movedIn cells final.moves) ∧
    (∀ entry ∈ final.moves, entry.1.effect.receives = true →
      entry.2 = entry.1.change) := by
  have hmoves := exactMoves_run (fun write => write.review.isSome = true) hlog hrows hclear
  exact ⟨fun adjustment hstored hstatus hnow => appliedOnce hmoves hstored hstatus hnow,
    hmoves.settled.units, hmoves.settled.received⟩

end Runs

namespace Shelves

/-- The review of the adjustment, and a receipt into the same bin. -/
def review : Fin 2 → MovementRequest
  | 0 => request (reviewActions [(1, true)]) 10
  | 1 => request (receiptActions [⟨⟨1, 1⟩, 1, 5, none⟩]) 11

end Shelves

theorem approvals_move_their_change_in_turn :
    let final := (run (Sessions.serve stockProgram Shelves.review)
      (opened stockProgram Shelves.review Shelves.opening)
      (Shelves.statements 1 4 ++ Shelves.statements 0 4)).world
    AppliedOnce Shelves.opening final ⟨1, 1, 1, 1, 2, "found", .adjApproved, "ann", none⟩ ∧
      unitsIn (anywhere 1) final.inventory = 17 := by
  have hclear : Along (Sessions.serve stockProgram Shelves.review)
      (Clear stockProgram Shelves.review (exactOn fun write => write.review.isSome = true)
        fun _ _ _ _ _ => True)
      (opened stockProgram Shelves.review Shelves.opening)
      (Shelves.statements 1 4 ++ Shelves.statements 0 4) := by
    decide +kernel
  exact ⟨(approvals_move_their_change Shelves.review Shelves.opening _ rfl (by decide)
      hclear).1 ⟨1, 1, 1, 1, 2, "found", .adjApproved, "ann", none⟩ (by decide +kernel) rfl
        (by decide +kernel), by decide +kernel⟩

/-- The review reads ten units; the receipt brings five; the review then sets twelve, and
reports that two were found. -/
theorem approval_overwrites_receipt :
    let final := (run (Sessions.serve stockProgram Shelves.review)
      (opened stockProgram Shelves.review Shelves.opening)
      (Shelves.statements 0 2 ++ Shelves.statements 1 4 ++ Shelves.statements 0 2)).world
    final.adjustments.find? 1 = some ⟨1, 1, 1, 1, 2, "found", .adjApproved, "ann", none⟩ ∧
      deltasOf 1 final.events = [2] ∧
        (movesOf 1 final.moves).map Prod.snd = [-3] ∧
          unitsIn (anywhere 1) final.inventory = 12 := by
  decide +kernel

end SentryWms.Stock

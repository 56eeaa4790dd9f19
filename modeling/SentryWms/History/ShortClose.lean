import SentryWms.History.Requests

/-!
# Short-close over a history

The completion, packing and shipping gates look for a short marker among all the
tasks and shares a line ever had.  As long as no revert leaves such a marker on a
line it reopens, an under-picked line that passes a gate was shorted after it was
last reopened.
-/

namespace SentryWms.History

open Relational Inventory Picking SalesOrders Fulfillment

/-! ## Shorts, reverts and gates -/

instance (db : Db) (task : PickTask) (soLineId : ℕ) : Decidable (Serves db task soLineId) :=
  inferInstanceAs (Decidable (_ ∨ _))

instance (db : Db) (soLineId : ℕ) : Decidable (ShareShort db soLineId) :=
  inferInstanceAs (Decidable (∃ share ∈ _, _))

/-- The call is an accepted short pick on a task that serves the line. -/
def Shorts (soLineId : ℕ) (db : Db) (call : Call) : Prop :=
  match call.request with
  | .shortPick request =>
      (shortPick call.ctx db request).isOk ∧
        ∃ task ∈ db.pickTasks.find? request.pickTaskId, Serves db task soLineId
  | _ => False

instance (soLineId : ℕ) (db : Db) (call : Call) : Decidable (Shorts soLineId db call) := by
  obtain ⟨ctx, request⟩ := call
  cases_type Request <;> unfold Shorts <;> infer_instance

/-- The call is an accepted revert of the order to `OPEN`. -/
def RevertsToOpen (soId : ℕ) (db : Db) (call : Call) : Prop :=
  match call.request with
  | .revertSalesOrderStatus request =>
      request.soId = soId ∧ request.newStatus = .soOpen ∧
        (revertSalesOrderStatus call.ctx db request).isOk
  | _ => False

instance (soId : ℕ) (db : Db) (call : Call) : Decidable (RevertsToOpen soId db call) := by
  obtain ⟨ctx, request⟩ := call
  cases_type Request <;> unfold RevertsToOpen <;> infer_instance

/-- The step returns the order to open work: it reverts it, turns its status back
to `OPEN`, or cancels a batch that lists it. -/
def Reopens (soId : ℕ) (db : Db) (call : Call) : Prop :=
  RevertsToOpen soId db call ∨
  (orderStatusOf db soId ≠ some .soOpen ∧ orderStatusOf db soId ≠ none ∧
    orderStatusOf (serve db call) soId = some .soOpen) ∨
  ∃ batch ∈ db.pickBatches.rows, soId ∈ membersOf db batch.batchId ∧
    Cancels db (serve db call) batch.batchId

instance (soId : ℕ) (db : Db) (call : Call) : Decidable (Reopens soId db call) :=
  inferInstanceAs (Decidable (_ ∨ _ ∨ _))

/-- The step returns the line's order to open work. -/
def ReopensLine (soLineId : ℕ) (db : Db) (call : Call) : Prop :=
  ∃ line ∈ db.salesOrderLines.rows, line.soLineId = soLineId ∧ Reopens line.soId db call

instance (soLineId : ℕ) (db : Db) (call : Call) : Decidable (ReopensLine soLineId db call) :=
  inferInstanceAs (Decidable (∃ line ∈ _, _))

/-- A line the step reopens has no short share, and its `SHORT` tasks are in
batches the step cancels. -/
def RevertsClean (db : Db) (call : Call) : Prop :=
  ∀ line ∈ db.salesOrderLines.rows, Reopens line.soId db call → ¬ ShareShort db line.soLineId ∧
    ∀ task ∈ db.pickTasks.rows, task.status = .taskShort →
      task.soLineId? = some line.soLineId → Cancels db (serve db call) task.batchId

instance (db : Db) (call : Call) : Decidable (RevertsClean db call) :=
  inferInstanceAs (Decidable (∀ line ∈ _, _))

/-- The call takes the order through a gate that refuses unmarked under-picks:
batch completion, packing, or a ship whose shortfall is not acknowledged. -/
def Passes (soId : ℕ) (db : Db) (call : Call) : Prop :=
  match call.request with
  | .completeBatch batchId =>
      soId ∈ membersOf db batchId ∧ (completeBatch call.ctx db batchId).isOk
  | .completePacking packedId =>
      packedId = soId ∧ (completePacking call.ctx db packedId).isOk
  | .fulfill request =>
      request.soId = soId ∧ (fulfill call.ctx db request).isOk
  | .updateSalesOrder request =>
      request.soId = soId ∧ request.status = some .soShipped ∧
        orderStatusOf db soId ≠ some .soShipped ∧
        (updateSalesOrder call.ctx db request).isOk
  | .adminShip request =>
      request.soId = soId ∧ request.acknowledgeShortfall = false ∧
        (recordAdminShip call.ctx db request).isOk
  | _ => False

instance (soId : ℕ) (db : Db) (call : Call) : Decidable (Passes soId db call) := by
  obtain ⟨ctx, request⟩ := call
  cases_type Request <;> unfold Passes <;> infer_instance

/-! ## The gates -/

variable {ctx : RequestContext} {db db' : Db} {soId : ℕ} {call : Call} {request : ShortPickRequest}

theorem recordShip_short {order : SalesOrder} {shipment : Shipment}
    (hshipped : recordShip ctx db order shipment = .ok db') :
    silentlyShort db order.soId = [] := by
  simp only [recordShip, bind_eq_ok, require_eq_ok] at hshipped
  obtain ⟨-, hshort, -⟩ := hshipped
  exact hshort

/-- Every gate runs the under-pick query of the order. -/
theorem passes_short (hpasses : Passes soId db call) : silentlyShort db soId = [] := by
  obtain ⟨ctx, request⟩ := call
  cases request with
  | completeBatch batchId =>
      obtain ⟨hmember, hok⟩ := hpasses
      obtain ⟨served, hserved⟩ := exists_eq_ok _ hok
      simp only [completeBatch, bind_eq_ok, orThrow_eq_ok, require_eq_ok] at hserved
      obtain ⟨-, -, -, -, -, hshort, -⟩ := hserved
      apply List.eq_nil_iff_forall_not_mem.mpr
      intro line hline
      have hlisted : line ∈ silentlyShortIn db batchId :=
        mem_orderBy.mpr (List.mem_flatMap.mpr ⟨soId, hmember, hline⟩)
      rw [hshort] at hlisted
      cases hlisted
  | completePacking packedId =>
      obtain ⟨rfl, hok⟩ := hpasses
      obtain ⟨served, hserved⟩ := exists_eq_ok _ hok
      simp only [completePacking, bind_eq_ok, orThrow_eq_ok, require_eq_ok] at hserved
      obtain ⟨-, -, -, -, -, -, -, hshort, -⟩ := hserved
      exact hshort
  | fulfill request =>
      obtain ⟨rfl, hok⟩ := hpasses
      obtain ⟨served, hserved⟩ := exists_eq_ok _ hok
      simp only [fulfill, bind_eq_ok, orThrow_eq_ok, require_eq_ok] at hserved
      obtain ⟨order, hfound, -, -, shipped, hshipped, -⟩ := hserved
      rw [← Table.find?_key hfound]
      exact recordShip_short hshipped
  | updateSalesOrder request =>
      obtain ⟨rfl, hships, hstatus, hok⟩ := hpasses
      obtain ⟨served, hserved⟩ := exists_eq_ok _ hok
      simp only [updateSalesOrder, bind_eq_ok, orThrow_eq_ok] at hserved
      obtain ⟨order, hfound, -, -, hrest⟩ := hserved
      have hnew : order.status ≠ .soShipped := fun hshipped => hstatus (by
        rw [orderStatusOf, hfound, Option.map_some, hshipped])
      rw [if_pos ⟨hships, hnew⟩] at hrest
      obtain ⟨edited, hedited, -⟩ := bind_eq_ok.mp hrest
      simp only [shipByEdit, bind_eq_ok, require_eq_ok] at hedited
      obtain ⟨-, -, -, -, hrecorded⟩ := hedited
      rw [← Table.find?_key hfound]
      exact recordShip_short hrecorded
  | adminShip request =>
      obtain ⟨rfl, hack, hok⟩ := hpasses
      obtain ⟨served, hserved⟩ := exists_eq_ok _ hok
      simp only [recordAdminShip, bind_eq_ok, orThrow_eq_ok, require_eq_ok] at hserved
      obtain ⟨-, -, -, -, -, -, -, -, -, hshort, -⟩ := hserved
      exact hshort.resolve_left (by simp [hack])
  | _ => exact hpasses.elim

/-- A line that passes a gate under-picked carries a marker. -/
theorem passes_marked (hpasses : Passes soId db call) {line : SalesOrderLine}
    (hline : line ∈ linesOf db soId)
    (hunder : line.quantityPicked < line.quantityOrdered) :
    hasShortMarker db line.soLineId = true := by
  by_contra hunmarked
  obtain ⟨hstored, horder⟩ := mem_linesOf.mp hline
  have hlisted : line ∈ silentlyShort db soId := by
    refine mem_orderBy.mpr (List.mem_filter.mpr ⟨hstored, ?_⟩)
    exact decide_eq_true ⟨horder, hunder, hunmarked⟩
  rw [passes_short hpasses] at hlisted
  cases hlisted

/-! ## One step -/

theorem salesOrders_shortPick {settled : SettledTask}
    (hserved : shortPick ctx db request = .ok (db', settled)) :
    db'.salesOrders = db.salesOrders := by
  obtain ⟨task, -, -, -, rfl⟩ := shortPick_ok hserved
  have hline : ∀ (k : Option ℕ) (set : SalesOrderLine → SalesOrderLine)
      (state : Db) (hset : ∀ line, (set line).soLineId = line.soLineId),
      (updateLine k set state hset).salesOrders = state.salesOrders :=
    fun k set state hset => by cases k <;> rfl
  unfold shortTask creditShorted
  split
  · exact hline ..
  · refine run_unchanged Db.salesOrders (fun state give => ?_) _ _
    unfold creditGive
    dsimp only
    split
    · exact hline ..
    · rfl

/-- A short pick reopens nothing. -/
theorem not_reopens_shortPick (soId : ℕ) : ¬ Reopens soId db ⟨ctx, .shortPick request⟩ := by
  have hsame : (serve db ⟨ctx, .shortPick request⟩).salesOrders = db.salesOrders ∧
      (serve db ⟨ctx, .shortPick request⟩).pickBatches = db.pickBatches :=
    @committed_cases _ _ _ (fun state => state.salesOrders = db.salesOrders ∧
        state.pickBatches = db.pickBatches) ⟨rfl, rfl⟩
      fun _ _ hserved => ⟨salesOrders_shortPick hserved, (shortPick_markers hserved).1⟩
  rintro (hreverts | ⟨hclosed, -, hopen⟩ | ⟨batch, -, -, hactive, hcancelled⟩)
  · exact hreverts
  · rw [orderStatusOf, hsame.1] at hopen
    exact hclosed hopen
  · obtain ⟨status, hstatus, hopen⟩ := hactive
    rw [batchStatusOf, hsame.2] at hcancelled
    obtain rfl := Option.some.inj (hstatus.symm.trans hcancelled)
    cases hopen

/-- A marker a clean step leaves is of a short pick it records, or it was there
and the step does not reopen the line. -/
theorem marker_serve (soLineId : ℕ) (db : Db) (call : Call) (hclean : RevertsClean db call)
    (hmarked : hasShortMarker (serve db call) soLineId = true) :
    Shorts soLineId db call ∨
      (hasShortMarker db soLineId = true ∧ ¬ ReopensLine soLineId db call) := by
  by_cases hshort : ∃ request, call.request = .shortPick request
  · obtain ⟨ctx, request⟩ := call
    obtain ⟨request, rfl⟩ := hshort
    have hkept : ¬ ReopensLine soLineId db ⟨ctx, .shortPick request⟩ :=
      fun ⟨_, _, _, hreopens⟩ => not_reopens_shortPick _ hreopens
    cases hserved : shortPick ctx db request with
    | error refusal =>
        have hsame : serve db ⟨ctx, .shortPick request⟩ = db := by
          simp only [serve, hserved, committed]
        rw [hsame] at hmarked
        exact Or.inr ⟨hmarked, hkept⟩
    | ok served =>
        obtain ⟨db', settled⟩ := served
        have hafter : serve db ⟨ctx, .shortPick request⟩ = db' := by
          simp only [serve, hserved, committed]
        obtain ⟨-, task, hfound, hmarkers⟩ := shortPick_markers hserved
        have hshorts : Serves db task soLineId →
            Shorts soLineId db ⟨ctx, .shortPick request⟩ :=
          fun hserves => ⟨by rw [hserved]; rfl, task, hfound, hserves⟩
        rw [hafter, hasShortMarker_iff] at hmarked
        rw [hasShortMarker_iff]
        cases hmarked with
        | inl htask =>
            obtain ⟨batchId, hshort⟩ := htask
            cases (hmarkers soLineId).1 batchId hshort with
            | inl hold => exact Or.inr ⟨Or.inl ⟨batchId, hold⟩, hkept⟩
            | inr hserves => exact Or.inl (hshorts hserves)
        | inr hshare =>
            cases (hmarkers soLineId).2 hshare with
            | inl hold => exact Or.inr ⟨Or.inr hold, hkept⟩
            | inr hserves => exact Or.inl (hshorts hserves)
  · have hquiet : Quiet db (serve db call) :=
      quiet_serve (fun request hrequest => hshort ⟨request, hrequest⟩) db
    rw [hasShortMarker_iff] at hmarked
    rw [hasShortMarker_iff]
    refine Or.inr ⟨hmarked.imp (fun ⟨batchId, hin⟩ =>
      ⟨batchId, hquiet.shorts _ _ hin⟩) (hquiet.shares _), ?_⟩
    rintro ⟨line, hline, rfl, hreopens⟩
    obtain ⟨hshare, htasks⟩ := hclean line hline hreopens
    cases hmarked with
    | inl htask =>
        obtain ⟨batchId, hin⟩ := htask
        obtain ⟨task, hmem, hstatus, htarget, rfl⟩ := hquiet.shorts _ _ hin
        exact hquiet.settled _ _ (htasks task hmem hstatus htarget) hin
    | inr hleft => exact hshare (hquiet.shares _ hleft)

/-! ## Runs -/

/-- From a database without markers, along a history whose reverts are clean: an
under-picked line that passes a gate was shorted since it was last reopened. -/
theorem passes_sinceShort {db : Db} {calls : List Call}
    (hfresh : ∀ soLineId, hasShortMarker db soLineId = false)
    (hclean : Along serve RevertsClean db calls) {soId : ℕ} {call : Call}
    (hpasses : Passes soId (run serve db calls) call) {line : SalesOrderLine}
    (hline : line ∈ linesOf (run serve db calls) soId)
    (hunder : line.quantityPicked < line.quantityOrdered) :
    Since serve (Shorts line.soLineId) (ReopensLine line.soLineId) db calls := by
  have hmarked : hasShortMarker (run serve db calls) line.soLineId = true :=
    passes_marked hpasses hline hunder
  cases since_of_marked
      (fun state => hasShortMarker state line.soLineId = true)
      (fun state call => marker_serve line.soLineId state call)
      hclean hmarked with
  | inl hsince => exact hsince
  | inr hold =>
      rw [hfresh line.soLineId] at hold
      cases hold

/-- An order for two, shorted at one. -/
def shorted : List Request :=
  [SmallWarehouse.receive 1 5 none, SmallWarehouse.order "S1" [SmallWarehouse.line 2],
    .createBatch (SmallWarehouse.batch ["S1"] []),
    .shortPick (SmallWarehouse.short 1 1)]

theorem passes_sinceShort_shorted :
    ∃ line ∈ linesOf (SmallWarehouse.after shorted) 1,
      Since serve (Shorts line.soLineId) (ReopensLine line.soLineId)
        SmallWarehouse.db (SmallWarehouse.calls shorted) := by
  obtain ⟨line, hline, hunder⟩ : ∃ line ∈ linesOf (SmallWarehouse.after shorted) 1,
      line.quantityPicked < line.quantityOrdered := by decide
  have hpasses : Passes 1 (SmallWarehouse.after shorted)
      ⟨SmallWarehouse.pat 5, .completeBatch 1⟩ := by decide
  exact ⟨line, hline,
    passes_sinceShort (fun _ => rfl) (by decide) hpasses hline hunder⟩

/-- An order for two: shorted at none, its batch completed, reverted to `OPEN`,
batched again and one unit confirmed. -/
def staleShort : List Request :=
  [SmallWarehouse.receive 1 5 none, SmallWarehouse.order "S1" [SmallWarehouse.line 2],
    .createBatch (SmallWarehouse.batch ["S1"] []),
    .shortPick (SmallWarehouse.short 1 0),
    .completeBatch 1,
    .revertSalesOrderStatus ⟨1, .soOpen, []⟩,
    SmallWarehouse.receive 2 5 none,
    .createBatch (SmallWarehouse.batch ["S1"] []),
    .confirmPick (SmallWarehouse.confirm 2 1)]

/-- The second batch completes with one of two units picked, on the marker of the
first batch's short pick. -/
theorem passes_staleShort :
    Passes 1 (SmallWarehouse.after staleShort) ⟨SmallWarehouse.pat 10, .completeBatch 2⟩ ∧
    (∃ line ∈ linesOf (SmallWarehouse.after staleShort) 1,
      line.soLineId = 1 ∧ line.quantityPicked < line.quantityOrdered) ∧
    ¬ Since serve (Shorts 1) (ReopensLine 1) SmallWarehouse.db
      (SmallWarehouse.calls staleShort) := by
  decide

end SentryWms.History

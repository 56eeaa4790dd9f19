import SentryWms.Picking.HeldBack

/-!
# Excluding uncovered orders and retrying

A refused create lists the orders it could not cover, and the picker retries with
them excluded.  The retry releases only the standing reservations of the orders it keeps,
so it is refused again exactly when those of the listed orders hold back more than the
first plan had left over.
-/

namespace SentryWms.Picking

open Relational

/-! ## Refusals for coverage -/

/-- The outcome is not a refusal for insufficient coverage. -/
def NotUncovered {Value : Type} (outcome : Except ServiceError Value) : Prop :=
  ∀ unpickable, outcome ≠ .error (.insufficientCoverage unpickable)

/-- The orders a refusal for coverage lists. -/
def refusedFor {Value : Type} :
    Except ServiceError Value → Option (List UncoveredOrder)
  | .error (.insufficientCoverage unpickable) => some unpickable
  | _ => none

variable {unpickable : List UncoveredOrder} {refusal : ServiceError} {db : Db}
  {ctx : RequestContext}

theorem refusedFor_eq_some {Value : Type} {outcome : Except ServiceError Value} :
    refusedFor outcome = some unpickable ↔
      outcome = .error (.insufficientCoverage unpickable) := by
  constructor
  · intro h
    unfold refusedFor at h
    split at h
    · rw [Option.some.inj h]
    · cases h
  · rintro rfl
    rfl

theorem notUncovered_ok {Value : Type} (value : Value) : NotUncovered (.ok value) := by
  intro unpickable h
  cases h

theorem notUncovered_error {Value : Type}
    (hrefusal : ∀ unpickable, refusal ≠ .insufficientCoverage unpickable) :
    NotUncovered (.error refusal : Except ServiceError Value) := by
  intro unpickable h
  exact hrefusal unpickable (Except.error.inj h)

theorem notUncovered_bind {Value Other : Type}
    {outcome : Except ServiceError Value} {next : Value → Except ServiceError Other}
    (houtcome : NotUncovered outcome)
    (hnext : ∀ value, outcome = .ok value → NotUncovered (next value)) :
    NotUncovered (outcome >>= next) := by
  cases outcome with
  | error refusal =>
      exact notUncovered_error fun unpickable h => houtcome unpickable (congrArg _ h)
  | ok value => exact hnext value rfl

theorem notUncovered_require {condition : Prop} [Decidable condition]
    (hrefusal : ∀ unpickable, refusal ≠ .insufficientCoverage unpickable) :
    NotUncovered (require condition refusal) := by
  by_cases h : condition
  · simp [require, h, notUncovered_ok]
  · simpa [require, h] using notUncovered_error hrefusal

theorem notUncovered_orThrow {Value : Type} {value? : Option Value}
    (hrefusal : ∀ unpickable, refusal ≠ .insufficientCoverage unpickable) :
    NotUncovered (orThrow value? refusal) := by
  cases value? with
  | none => exact notUncovered_error hrefusal
  | some value => exact notUncovered_ok value

theorem notUncovered_requireInactive (db : Db) (soId : ℕ) {refusal : PickBatch → ServiceError}
    (hrefusal : ∀ active unpickable, refusal active ≠ .insufficientCoverage unpickable) :
    NotUncovered (requireInactive db soId refusal) := by
  unfold requireInactive
  cases activeBatchOf db soId with
  | none => exact notUncovered_ok ()
  | some active => exact notUncovered_error (hrefusal active)

theorem notUncovered_checkBatchable (db : Db) (ident : String)
    (order : SalesOrder) : NotUncovered (checkBatchable db ident order) :=
  notUncovered_bind (notUncovered_require fun _ h => by cases h) fun _ _ =>
    notUncovered_requireInactive _ _ fun _ _ h => by cases h

theorem notUncovered_resolveOrders (db : Db) (warehouseId : ℕ)
    (excludeSoIds : List ℕ) (idents : List String) :
    NotUncovered (resolveOrders db warehouseId excludeSoIds idents) := by
  induction idents with
  | nil => exact notUncovered_ok []
  | cons ident rest ih =>
      refine notUncovered_bind (notUncovered_orThrow fun _ h => by cases h)
        fun order _ => ?_
      split
      · exact ih
      · refine notUncovered_bind (notUncovered_checkBatchable _ _ _)
          fun _ _ => ?_
        exact notUncovered_bind ih fun others _ => notUncovered_ok _

theorem notUncovered_addBatchOrders (batchId : ℕ) (orders : List (SalesOrder × String)) (db : Db) :
    NotUncovered (addBatchOrders batchId orders db) := by
  induction orders generalizing db with
  | nil => exact notUncovered_ok db
  | cons order rest ih =>
      refine notUncovered_bind ?_ fun listed _ => ih listed
      exact notUncovered_bind (notUncovered_require fun _ h => by cases h)
        fun _ _ => notUncovered_ok _

theorem notUncovered_checkWaveOrder (db : Db) (warehouseId soId : ℕ) :
    NotUncovered (checkWaveOrder db warehouseId soId) := by
  refine notUncovered_bind (notUncovered_orThrow fun _ h => by cases h)
    fun order _ => ?_
  refine notUncovered_bind (notUncovered_require fun _ h => by cases h)
    fun _ _ => ?_
  refine notUncovered_bind (notUncovered_require fun _ h => by cases h)
    fun _ _ => ?_
  refine notUncovered_bind
    (notUncovered_requireInactive _ _ fun _ _ h => by cases h) fun _ _ => ?_
  exact notUncovered_bind (notUncovered_require fun _ h => by cases h)
    fun _ _ => notUncovered_ok order

theorem notUncovered_checkWaveOrders (db : Db) (warehouseId : ℕ)
    (soIds : List ℕ) : NotUncovered (checkWaveOrders db warehouseId soIds) := by
  induction soIds with
  | nil => exact notUncovered_ok []
  | cons soId rest ih =>
      refine notUncovered_bind (notUncovered_checkWaveOrder _ _ _) fun _ _ => ?_
      exact notUncovered_bind ih fun _ _ => notUncovered_ok _

theorem notUncovered_recheckActive (db : Db) (orders : List SalesOrder) :
    NotUncovered (recheckActive db orders) := by
  induction orders with
  | nil => exact notUncovered_ok ()
  | cons order rest ih =>
      exact notUncovered_bind
        (notUncovered_requireInactive _ _ fun _ _ h => by cases h) fun _ _ => ih

/-! ## Resolving what is kept -/

variable {excluded soIds : List ℕ} {idents : List String} {request : CreateBatchRequest}

/-- Excluding more orders resolves the others as before. -/
theorem resolveOrders_exclude {warehouseId : ℕ} (more : List ℕ) {orders : List SalesOrder}
    (hresolved : resolveOrders db warehouseId excluded idents = .ok orders) :
    resolveOrders db warehouseId (excluded ++ more) idents =
      .ok (orders.filter fun order => order.soId ∉ more) := by
  induction idents generalizing orders with
  | nil =>
      obtain rfl : [] = orders := by simpa [resolveOrders] using hresolved
      rfl
  | cons ident rest ih =>
      simp only [resolveOrders, bind_eq_ok, orThrow_eq_ok] at hresolved
      obtain ⟨order, hfound, hrest⟩ := hresolved
      refine bind_eq_ok.mpr ⟨order, orThrow_eq_ok.mpr hfound, ?_⟩
      simp only [List.mem_append]
      by_cases hexcluded : order.soId ∈ excluded
      · rw [if_pos hexcluded] at hrest
        rw [if_pos (Or.inl hexcluded)]
        exact ih hrest
      · rw [if_neg hexcluded] at hrest
        simp only [bind_eq_ok, pure_eq_ok] at hrest
        obtain ⟨u, hcheck, others, hothers, rfl⟩ := hrest
        by_cases hmore : order.soId ∈ more
        · rw [if_pos (Or.inr hmore), ih hothers,
            List.filter_cons_of_neg (by simpa using hmore)]
        · rw [if_neg (by simp [hexcluded, hmore]),
            List.filter_cons_of_pos (by simpa using hmore)]
          exact bind_eq_ok.mpr ⟨u, hcheck, bind_eq_ok.mpr ⟨_, ih hothers, rfl⟩⟩

theorem checkWaveOrder_soId {warehouseId soId : ℕ} {order : SalesOrder}
    (hchecked : checkWaveOrder db warehouseId soId = .ok order) :
    order.soId = soId := by
  simp only [checkWaveOrder, bind_eq_ok, orThrow_eq_ok, pure_eq_ok] at hchecked
  obtain ⟨found, hfound, -, -, -, -, -, -, -, -, rfl⟩ := hchecked
  exact Table.find?_key hfound

theorem filter_excluded_append (soIds excluded more : List ℕ) :
    (soIds.filter fun soId => soId ∉ excluded).filter
        (fun soId => soId ∉ more) =
      soIds.filter fun soId => soId ∉ excluded ++ more := by
  rw [List.filter_filter]
  refine List.filter_congr fun soId _ => ?_
  by_cases hmore : soId ∈ more <;> simp [hmore]

theorem checkWaveOrders_exclude {warehouseId : ℕ} (more : List ℕ) {orders : List SalesOrder}
    (hchecked : checkWaveOrders db warehouseId soIds = .ok orders) :
    checkWaveOrders db warehouseId (soIds.filter fun soId => soId ∉ more) =
      .ok (orders.filter fun order => order.soId ∉ more) := by
  induction soIds generalizing orders with
  | nil =>
      obtain rfl : [] = orders := by simpa [checkWaveOrders] using hchecked
      rfl
  | cons soId rest ih =>
      simp only [checkWaveOrders, bind_eq_ok, pure_eq_ok] at hchecked
      obtain ⟨order, horder, others, hothers, rfl⟩ := hchecked
      have hkey := checkWaveOrder_soId horder
      by_cases hmore : soId ∈ more
      · rw [List.filter_cons_of_neg (by simpa using hmore), ih hothers,
          List.filter_cons_of_neg (by simpa [hkey] using hmore)]
      · rw [List.filter_cons_of_pos (by simpa using hmore),
          List.filter_cons_of_pos (by simpa [hkey] using hmore)]
        exact bind_eq_ok.mpr ⟨order, horder, bind_eq_ok.mpr ⟨_, ih hothers, rfl⟩⟩

/-! ## The retry -/

/-- The request repeated with the uncovered orders excluded. -/
def CreateBatchRequest.excluding (request : CreateBatchRequest)
    (unpickable : List UncoveredOrder) : CreateBatchRequest :=
  { request with excludeSoIds := request.excludeSoIds ++ listedIds unpickable }

def WaveCreateRequest.excluding (request : WaveCreateRequest)
    (unpickable : List UncoveredOrder) : WaveCreateRequest :=
  { request with excludeSoIds := request.excludeSoIds ++ listedIds unpickable }

/-- The scanned orders that are not excluded. -/
def CreateBatchRequest.orders (db : Db) (request : CreateBatchRequest) : List SalesOrder :=
  (request.soIdentifiers.filterMap (findOrder db request.warehouseId)).filter
    fun order => order.soId ∉ request.excludeSoIds

def WaveCreateRequest.orders (db : Db) (request : WaveCreateRequest) : List SalesOrder :=
  (request.soIds.filter fun soId => soId ∉ request.excludeSoIds).filterMap db.salesOrders.find?

/-- The pickable stock covers the orders once their own standing reservations,
and no others, are released. -/
def CoversAlone (now : ℕ) (db : Db) (warehouseId : ℕ) (orders : List SalesOrder) : Prop :=
  Covers (normalizeOrders now warehouseId db orders) warehouseId orders

theorem coversAlone_nil (now : ℕ) (db : Db) (warehouseId : ℕ) :
    CoversAlone now db warehouseId [] := fun itemId => by
  simpa [demand, combinedNeeded] using pickableIn_nonneg _ itemId warehouseId

theorem resolveOrders_eq {warehouseId : ℕ} {orders : List SalesOrder}
    (hresolved : resolveOrders db warehouseId excluded idents = .ok orders) :
    orders = (idents.filterMap (findOrder db warehouseId)).filter
      fun order => order.soId ∉ excluded := by
  induction idents generalizing orders with
  | nil =>
      obtain rfl : [] = orders := by simpa [resolveOrders] using hresolved
      rfl
  | cons ident rest ih =>
      simp only [resolveOrders, bind_eq_ok, orThrow_eq_ok] at hresolved
      obtain ⟨order, hfound, hrest⟩ := hresolved
      rw [List.filterMap_cons_some hfound]
      by_cases hexcluded : order.soId ∈ excluded
      · rw [if_pos hexcluded] at hrest
        rw [List.filter_cons_of_neg (by simpa using hexcluded)]
        exact ih hrest
      · rw [if_neg hexcluded] at hrest
        simp only [bind_eq_ok, pure_eq_ok] at hrest
        obtain ⟨-, -, others, hothers, rfl⟩ := hrest
        rw [List.filter_cons_of_pos (by simpa using hexcluded), ih hothers]

theorem checkWaveOrders_eq {warehouseId : ℕ} {orders : List SalesOrder}
    (hchecked : checkWaveOrders db warehouseId soIds = .ok orders) :
    orders = soIds.filterMap db.salesOrders.find? := by
  induction soIds generalizing orders with
  | nil =>
      obtain rfl : [] = orders := by simpa [checkWaveOrders] using hchecked
      rfl
  | cons soId rest ih =>
      simp only [checkWaveOrders, bind_eq_ok, pure_eq_ok] at hchecked
      obtain ⟨order, horder, others, hothers, rfl⟩ := hchecked
      simp only [checkWaveOrder, bind_eq_ok, orThrow_eq_ok, pure_eq_ok] at horder
      obtain ⟨found, hfound, -, -, -, -, -, -, -, -, rfl⟩ := horder
      rw [List.filterMap_cons_some hfound, ih hothers]

/-- The coverage gate and what follows it: refused for coverage exactly when the
gate is. -/
theorem notUncovered_gate {Value : Type} {warehouseId : ℕ} {orders : List SalesOrder}
    {next : Unit → Except ServiceError Value} (hnext : NotUncovered (next ())) :
    NotUncovered (require ((planCoverage db (coverageMap db orders) warehouseId).1 = [])
        (.insufficientCoverage
          (planCoverage db (coverageMap db orders) warehouseId).1) >>= next) ↔
      Covers db warehouseId orders := by
  rw [← planCoverage_eq_nil_iff]
  constructor
  · intro hgate
    by_contra hplan
    rw [require, if_neg hplan] at hgate
    exact hgate _ rfl
  · intro hplan
    rw [require, if_pos hplan]
    exact hnext

/-- A request whose orders resolve is refused for coverage exactly when they do
not fit. -/
theorem createPickBatch_notUncovered_iff {orders : List SalesOrder}
    (hresolved : resolveOrders
      (cancelPriorUserBatches ctx db request.warehouseId) request.warehouseId
        request.excludeSoIds request.soIdentifiers = .ok orders) :
    NotUncovered (createPickBatch ctx db request) ↔
      CoversAlone ctx.now (cancelPriorUserBatches ctx db request.warehouseId)
        request.warehouseId orders := by
  rw [createPickBatch, hresolved]
  by_cases hempty : orders = []
  · subst hempty
    exact iff_of_true (notUncovered_error fun _ h => by cases h)
      (coversAlone_nil _ _ _)
  · refine (iff_of_eq (congrArg NotUncovered (require_bind hempty))).trans ?_
    exact notUncovered_gate (notUncovered_bind
      (notUncovered_addBatchOrders _ _ _) fun _ _ => notUncovered_ok _)

theorem waveCreate_notUncovered_iff (request : WaveCreateRequest)
    {orders : List SalesOrder} (hnodup : request.soIds.Nodup)
    (hchecked : checkWaveOrders
      (cancelPriorUserBatches ctx db request.warehouseId) request.warehouseId
        (request.soIds.filter fun soId => soId ∉ request.excludeSoIds) = .ok orders) :
    NotUncovered (waveCreate ctx db request) ↔
      CoversAlone ctx.now (cancelPriorUserBatches ctx db request.warehouseId)
        request.warehouseId orders := by
  by_cases hempty : request.soIds.filter
      (fun soId => soId ∉ request.excludeSoIds) = []
  · rw [hempty] at hchecked
    obtain rfl : [] = orders := by simpa [checkWaveOrders] using hchecked
    rw [waveCreate, require_bind hnodup, require_bind_not (not_not.mpr hempty)]
    exact iff_of_true (notUncovered_error fun _ h => by cases h)
      (coversAlone_nil _ _ _)
  · rw [waveCreate, require_bind hnodup, require_bind hempty]
    simp only [hchecked]
    refine notUncovered_gate (notUncovered_bind
      (notUncovered_recheckActive _ _) fun _ _ => ?_)
    exact notUncovered_bind (notUncovered_addBatchOrders _ _ _)
      fun _ _ => notUncovered_ok _

theorem map_eq_error {Value Other : Type} {f : Value → Other}
    {outcome : Except ServiceError Value} :
    outcome.map f = .error refusal ↔ outcome = .error refusal := by
  cases outcome with
  | error | ok => simp [Except.map]

theorem notUncovered_map {Value Other : Type} (f : Value → Other)
    (outcome : Except ServiceError Value) :
    NotUncovered (outcome.map f) ↔ NotUncovered outcome := by
  simp only [NotUncovered, ne_eq, map_eq_error]

/-- Steps before the gate that are not refused for coverage have a value when the
whole is. -/
theorem of_bind_uncovered {Value Other : Type} {outcome : Except ServiceError Value}
    {next : Value → Except ServiceError Other} (houtcome : NotUncovered outcome)
    (hrefused : (outcome >>= next) = .error (.insufficientCoverage unpickable)) :
    ∃ value, outcome = .ok value ∧
      next value = .error (.insufficientCoverage unpickable) := by
  cases outcome with
  | error refusal =>
      have hsame : refusal = .insufficientCoverage unpickable := Except.error.inj hrefused
      exact absurd (congrArg Except.error hsame) (houtcome unpickable)
  | ok value => exact ⟨value, rfl, hrefused⟩

/-- The refusal of the gate lists what the plan left uncovered. -/
theorem of_gate_uncovered {Value : Type} {found : List UncoveredOrder}
    {next : Unit → Except ServiceError Value} (hnext : NotUncovered (next ()))
    (hrefused : (require (found = []) (.insufficientCoverage found) >>= next) =
      .error (.insufficientCoverage unpickable)) : found = unpickable := by
  by_cases hfound : found = []
  · rw [require_bind hfound] at hrefused
    exact absurd hrefused (hnext unpickable)
  · rw [require_bind_not hfound] at hrefused
    simpa using hrefused

theorem createPickBatch_uncovered (hrefused : createPickBatch ctx db request =
      .error (.insufficientCoverage unpickable)) :
    ∃ orders,
      resolveOrders (cancelPriorUserBatches ctx db request.warehouseId)
        request.warehouseId request.excludeSoIds request.soIdentifiers = .ok orders ∧
      (let normalized := normalizeOrders ctx.now request.warehouseId
        (cancelPriorUserBatches ctx db request.warehouseId) orders
      (planCoverage normalized (coverageMap normalized orders)
        request.warehouseId).1 = unpickable) := by
  obtain ⟨orders, hresolved, hrest⟩ :=
    of_bind_uncovered (notUncovered_resolveOrders _ _ _ _) hrefused
  obtain ⟨-, -, hgate⟩ :=
    of_bind_uncovered (notUncovered_require fun _ h => by cases h) hrest
  exact ⟨orders, hresolved, of_gate_uncovered (notUncovered_bind
    (notUncovered_addBatchOrders _ _ _) fun _ _ => notUncovered_ok _) hgate⟩

theorem waveCreate_uncovered {request : WaveCreateRequest}
    (hrefused : waveCreate ctx db request = .error (.insufficientCoverage unpickable)) :
    request.soIds.Nodup ∧ ∃ orders,
      checkWaveOrders (cancelPriorUserBatches ctx db request.warehouseId) request.warehouseId
        (request.soIds.filter fun soId => soId ∉ request.excludeSoIds) = .ok orders ∧
      (let normalized := normalizeOrders ctx.now request.warehouseId
        (cancelPriorUserBatches ctx db request.warehouseId) orders
      (planCoverage normalized (coverageMap normalized orders)
        request.warehouseId).1 = unpickable) := by
  obtain ⟨u, hnodup, hrest⟩ :=
    of_bind_uncovered (notUncovered_require fun _ h => by cases h) hrefused
  obtain ⟨-, -, hrest⟩ :=
    of_bind_uncovered (notUncovered_require fun _ h => by cases h) hrest
  obtain ⟨orders, hchecked, hgate⟩ := of_bind_uncovered (notUncovered_checkWaveOrders _ _ _) hrest
  refine ⟨require_eq_ok.mp hnodup, orders, hchecked, of_gate_uncovered ?_ hgate⟩
  refine notUncovered_bind (notUncovered_recheckActive _ _) fun _ _ => ?_
  exact notUncovered_bind (notUncovered_addBatchOrders _ _ _)
    fun _ _ => notUncovered_ok _

/-- The two requests that plan coverage before they write a batch. -/
inductive PlannedRequest
  | batch (request : CreateBatchRequest)
  | wave (request : WaveCreateRequest)

namespace PlannedRequest

def outcome (ctx : RequestContext) (db : Db) :
    PlannedRequest → Except ServiceError Db
  | batch request => (createPickBatch ctx db request).map Prod.fst
  | wave request => (waveCreate ctx db request).map Prod.fst

def warehouseId : PlannedRequest → ℕ
  | batch request => request.warehouseId
  | wave request => request.warehouseId

def excluding (unpickable : List UncoveredOrder) :
    PlannedRequest → PlannedRequest
  | batch request => batch (request.excluding unpickable)
  | wave request => wave (request.excluding unpickable)

def orders (db : Db) : PlannedRequest → List SalesOrder
  | batch request => request.orders db
  | wave request => request.orders db

/-- The state a request plans on: the operator's earlier batches are gone. -/
def scrubbed (ctx : RequestContext) (db : Db) (request : PlannedRequest) : Db :=
  cancelPriorUserBatches ctx db request.warehouseId

end PlannedRequest

/-! ## Exclude and retry -/

/-- What the first plan listed decides whether the second one fits. -/
theorem retry_fits {orders kept : List SalesOrder} {warehouseId now : ℕ}
    (hplan : (planCoverage (normalizeOrders now warehouseId db orders)
      (coverageMap (normalizeOrders now warehouseId db orders) orders) warehouseId).1 = unpickable)
    (hkept : kept = orders.filter fun order => order.soId ∉ listedIds unpickable)
    {again : Prop} (hagain : again ↔ CoversAlone now db warehouseId kept) :
    (∀ itemId, 0 ≤ leftOver db warehouseId kept (listedIds unpickable) itemId) ∧
      (again ↔ ∀ itemId, heldBack db warehouseId kept (listedIds unpickable) itemId ≤
        leftOver db warehouseId kept (listedIds unpickable) itemId) := by
  have hfits := covers_kept_iff now (congrArg listedIds hplan.symm) hkept
  exact ⟨hfits.1, hagain.trans hfits.2⟩

/-- A request is refused for coverage, and repeated with the listed orders excluded.  The
refusal has left the kept orders enough of every item; the retry is not refused for coverage
if and only if the listed orders, whose reservations now stand, hold back no more than that. -/
theorem retry_notUncovered_iff {ctx : RequestContext} {db : Db}
    {request : PlannedRequest} {unpickable : List UncoveredOrder}
    (hrefused : request.outcome ctx db = .error (.insufficientCoverage unpickable)) :
    let planned := request.scrubbed ctx db
    let kept := (request.excluding unpickable).orders planned
    (∀ itemId, 0 ≤ leftOver planned request.warehouseId kept (listedIds unpickable) itemId) ∧
      (NotUncovered ((request.excluding unpickable).outcome ctx db) ↔
        ∀ itemId, heldBack planned request.warehouseId kept (listedIds unpickable) itemId ≤
          leftOver planned request.warehouseId kept (listedIds unpickable) itemId) := by
  cases request with
  | batch request =>
      obtain ⟨orders, hresolved, hplan⟩ := createPickBatch_uncovered (map_eq_error.mp hrefused)
      have hretry := resolveOrders_exclude (listedIds unpickable) hresolved
      have hkept : _ = (request.excluding unpickable).orders
          (cancelPriorUserBatches ctx db request.warehouseId) :=
        resolveOrders_eq hretry
      refine retry_fits hplan hkept.symm ?_
      rw [PlannedRequest.excluding, PlannedRequest.outcome, notUncovered_map,
        createPickBatch_notUncovered_iff hretry, hkept]
      rfl
  | wave request =>
      obtain ⟨hnodup, orders, hchecked, hplan⟩ := waveCreate_uncovered (map_eq_error.mp hrefused)
      have hretry := checkWaveOrders_exclude (listedIds unpickable) hchecked
      rw [filter_excluded_append] at hretry
      have hkept : _ = (request.excluding unpickable).orders
          (cancelPriorUserBatches ctx db request.warehouseId) :=
        checkWaveOrders_eq hretry
      refine retry_fits hplan hkept.symm ?_
      rw [PlannedRequest.excluding, PlannedRequest.outcome, notUncovered_map,
        waveCreate_notUncovered_iff (request.excluding unpickable) hnodup hretry,
        hkept]
      rfl

/-- An order of four taken before stock arrives, then five units, reserved by a
second order that wants six. -/
def heldBackShop : Db :=
  SmallWarehouse.after
    [SmallWarehouse.order "S1" [SmallWarehouse.line 4], SmallWarehouse.receive 1 5 none,
      SmallWarehouse.order "S2" [SmallWarehouse.line 6]]

/-- What the refusal lists for order 2: six wanted, one unit left by order 1. -/
def heldBackUncovered : List UncoveredOrder :=
  [{ soId := 2
     soNumber := "S2"
     lines :=
      [{ sku := some "WIDGET"
         itemName := some "Widget"
         ordered := 6
         available := 1 }] }]

def heldBackRequest : PlannedRequest := .batch (SmallWarehouse.batch ["S1", "S2"] [])

/-- The tables the plans are made on, and what is kept without order 2. -/
def heldBackPlan : Db := heldBackRequest.scrubbed (SmallWarehouse.pat 4) heldBackShop

def heldBackKept : List SalesOrder :=
  (heldBackRequest.excluding heldBackUncovered).orders heldBackPlan

/-- One of the five units is left over, and all five are held back. -/
theorem retry_notUncovered_iff_heldBack :
    (leftOver heldBackPlan 1 heldBackKept [2] 1, heldBack heldBackPlan 1 heldBackKept [2] 1) =
      (1, 5) ∧
    (∀ itemId, 0 ≤ leftOver heldBackPlan 1 heldBackKept [2] itemId) ∧
    (NotUncovered ((heldBackRequest.excluding heldBackUncovered).outcome
        (SmallWarehouse.pat 4) heldBackShop) ↔
      ∀ itemId, heldBack heldBackPlan 1 heldBackKept [2] itemId ≤
        leftOver heldBackPlan 1 heldBackKept [2] itemId) :=
  ⟨by decide, retry_notUncovered_iff (refusedFor_eq_some.mp (by decide))⟩

/-- Without order 2 the batch is refused again: the reservation of order 2 is
not released on the retry, and holds back what order 1 needs. -/
theorem retry_uncovered_heldBack :
    heldBackRequest.outcome (SmallWarehouse.pat 4) heldBackShop =
      .error (.insufficientCoverage heldBackUncovered) ∧
    heldBackKept.map SalesOrder.soId = [1] ∧
    ¬ NotUncovered ((heldBackRequest.excluding heldBackUncovered).outcome
      (SmallWarehouse.pat 4) heldBackShop) := by
  refine ⟨refusedFor_eq_some.mp (by decide), by decide, fun hretry => ?_⟩
  have hagain : refusedFor ((heldBackRequest.excluding heldBackUncovered).outcome
      (SmallWarehouse.pat 4) heldBackShop) =
        some [{ soId := 1
                soNumber := "S1"
                lines :=
                  [{ sku := some "WIDGET"
                     itemName := some "Widget"
                     ordered := 4
                     available := 0 }] }] := by
    decide
  exact hretry _ (refusedFor_eq_some.mp hagain)

end SentryWms.Picking

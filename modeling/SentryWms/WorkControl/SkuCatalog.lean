import SentryWms.Relational.Keyed
import SentryWms.Relational.Run
import SentryWms.Schema

/-!
# The SKU reference catalogue

The bridge reads a SiteGiant catalogue page by page and posts each page; a run of pages
shares its id and the time it was captured.  A page overwrites the rows of its items,
and the page with the last number deactivates the rows the run has not written.  Pages
of one run, and of different runs, come in any order, some twice and some never.
-/

namespace SentryWms.WorkControl

open Relational

/-! ## The table -/

inductive SkuSource
  | manual
  | sitegiant
  deriving DecidableEq, Repr

/-- `work_sku_catalog`. -/
structure WorkSku where
  warehouseId : ℕ
  sku : String
  itemName : String
  sourceSystem : SkuSource
  sourceItemId : Option String
  sourceItemUrl : Option String
  imageUrl : Option String
  needsReview : Bool
  isActive : Bool
  lastSyncRun : Option ℕ
  syncedAt : Option ℤ
  createdBy : String
  deriving DecidableEq, Repr

-- `UPPER(BTRIM(sku))`, as the collation of the database has it.
variable (skuNormalized : String → String)

/-- `uq_work_sku_catalog_warehouse_sku`. -/
def WorkSku.uniqueKey (row : WorkSku) : ℕ × String := (row.warehouseId, skuNormalized row.sku)

abbrev SkuCatalog := Keyed WorkSku (WorkSku.uniqueKey skuNormalized)

structure SiteGiantSkuItem where
  sku : String
  itemName : String
  sourceItemId : Option String
  sourceItemUrl : Option String
  imageUrl : Option String
  deriving DecidableEq, Repr

/-- The body of a page, past its validators. -/
structure SiteGiantSkuSyncRequest where
  warehouseId : ℕ
  syncRunId : ℕ
  capturedAt : ℤ
  page : ℕ
  totalPages : ℕ
  totalItems : ℕ
  items : List SiteGiantSkuItem
  page_pos : 1 ≤ page
  page_le : page ≤ totalPages
  totalPages_le : totalPages ≤ 10000
  totalItems_pos : 1 ≤ totalItems
  totalItems_le : totalItems ≤ 1000000
  items_ne : items ≠ []
  items_le : items.length ≤ 100

structure SkuSyncResponse where
  page : ℕ
  totalPages : ℕ
  accepted : ℕ
  completed : Bool
  deactivated : ℕ
  deriving DecidableEq, Repr

/-! ## The requests -/

variable {skuNormalized}

/-- The row a page inserts for an item. -/
def syncedRow (request : SiteGiantSkuSyncRequest) (item : SiteGiantSkuItem) : WorkSku where
  warehouseId := request.warehouseId
  sku := item.sku
  itemName := item.itemName
  sourceSystem := .sitegiant
  sourceItemId := item.sourceItemId
  sourceItemUrl := item.sourceItemUrl
  imageUrl := item.imageUrl
  needsReview := false
  isActive := true
  lastSyncRun := some request.syncRunId
  syncedAt := some request.capturedAt
  createdBy := "sitegiant-bridge"

/-- `ON CONFLICT (warehouse_id, sku_normalized) DO UPDATE`. -/
def syncItem (request : SiteGiantSkuSyncRequest) (catalog : SkuCatalog skuNormalized)
    (item : SiteGiantSkuItem) : SkuCatalog skuNormalized :=
  catalog.upsert (syncedRow request item)
    (fun old =>
      { old with
        sku := item.sku
        itemName := item.itemName
        sourceSystem := .sitegiant
        sourceItemId := item.sourceItemId
        sourceItemUrl := item.sourceItemUrl
        imageUrl := item.imageUrl
        needsReview := false
        isActive := true
        lastSyncRun := some request.syncRunId
        syncedAt := some request.capturedAt })
    (fun _ hold => congrArg (fun warehouseAndSku : ℕ × String =>
      (warehouseAndSku.1, skuNormalized item.sku)) hold)

def syncItems (request : SiteGiantSkuSyncRequest) (catalog : SkuCatalog skuNormalized) :
    SkuCatalog skuNormalized :=
  request.items.foldl (syncItem request) catalog

/-- `last_sync_run IS DISTINCT FROM :sync_run AND (synced_at IS NULL OR
synced_at <= :synced_at)`, of an active SiteGiant row of the warehouse. -/
def unlisted (request : SiteGiantSkuSyncRequest) (row : WorkSku) : Bool :=
  row.warehouseId = request.warehouseId ∧ row.sourceSystem = .sitegiant ∧
    row.isActive ∧ row.lastSyncRun ≠ some request.syncRunId ∧
    row.syncedAt.all (· ≤ request.capturedAt)

def deactivateUnlisted (request : SiteGiantSkuSyncRequest)
    (catalog : SkuCatalog skuNormalized) : SkuCatalog skuNormalized :=
  catalog.modify (unlisted request) (fun row => { row with isActive := false })
    fun _ => rfl

/-- `sync_sitegiant_skus`, under the warehouses of the token. -/
def syncSitegiantSkus (warehouseIds : List ℕ) (request : SiteGiantSkuSyncRequest)
    (catalog : SkuCatalog skuNormalized) :
    Except ServiceError (SkuCatalog skuNormalized × SkuSyncResponse) := do
  require (request.warehouseId ∈ warehouseIds) (.httpError 403 "warehouse_scope_violation")
  let written := syncItems request catalog
  let completed := decide (request.page = request.totalPages)
  pure (if completed then deactivateUnlisted request written else written,
    { page := request.page
      totalPages := request.totalPages
      accepted := request.items.length
      completed := completed
      deactivated := if completed then written.rows.countP (unlisted request) else 0 })

/-- `create_work_sku`, for a user who may work in the warehouse and receive. -/
def createWorkSku (warehouseId : ℕ) (sku itemName username : String)
    (catalog : SkuCatalog skuNormalized) :
    Except ServiceError (SkuCatalog skuNormalized) :=
  let row : WorkSku :=
    { warehouseId := warehouseId
      sku := sku
      itemName := itemName
      sourceSystem := .manual
      sourceItemId := none
      sourceItemUrl := none
      imageUrl := none
      needsReview := true
      isActive := true
      lastSyncRun := none
      syncedAt := none
      createdBy := username }
  if hfree : catalog.lookup (row.uniqueKey skuNormalized) = none then
    .ok (catalog.insertNew row hfree)
  else .error (.httpError 409 "SKU already exists")

/-! ## Runs and their pages -/

structure SkuPage where
  items : List SiteGiantSkuItem
  items_ne : items ≠ []
  items_le : items.length ≤ 100

/-- What the bridge captured under one run id. -/
structure SyncRun where
  warehouseId : ℕ
  capturedAt : ℤ
  totalItems : ℕ
  pages : List SkuPage
  pages_ne : pages ≠ []
  pages_le : pages.length ≤ 10000
  totalItems_pos : 1 ≤ totalItems
  totalItems_le : totalItems ≤ 1000000

variable (runs : ℕ → SyncRun)

/-- A page of a run, counted from zero. -/
structure PageOf where
  syncRunId : ℕ
  index : Fin (runs syncRunId).pages.length
  deriving DecidableEq

variable {runs}

namespace PageOf

def sender (page : PageOf runs) : SyncRun := runs page.syncRunId

theorem sender_congr {page other : PageOf runs}
    (hrun : page.syncRunId = other.syncRunId) : page.sender = other.sender :=
  congrArg runs hrun

def items (page : PageOf runs) : List SiteGiantSkuItem :=
  ((runs page.syncRunId).pages.get page.index).items

def IsLast (page : PageOf runs) : Prop := page.index.val + 1 = (runs page.syncRunId).pages.length

instance (page : PageOf runs) : Decidable page.IsLast := inferInstanceAs (Decidable (_ = _))

def request (page : PageOf runs) : SiteGiantSkuSyncRequest where
  warehouseId := page.sender.warehouseId
  syncRunId := page.syncRunId
  capturedAt := page.sender.capturedAt
  page := page.index + 1
  totalPages := page.sender.pages.length
  totalItems := page.sender.totalItems
  items := page.items
  page_pos := Nat.le_add_left 1 _
  page_le := page.index.isLt
  totalPages_le := page.sender.pages_le
  totalItems_pos := page.sender.totalItems_pos
  totalItems_le := page.sender.totalItems_le
  items_ne := ((runs page.syncRunId).pages.get page.index).items_ne
  items_le := ((runs page.syncRunId).pages.get page.index).items_le

variable (skuNormalized) in
/-- The rows the page names. -/
def keys (page : PageOf runs) : List (ℕ × String) :=
  page.items.map fun item => (page.sender.warehouseId, skuNormalized item.sku)

end PageOf

/-- The catalogue, and the pages processed so far. -/
structure SkuSync (skuNormalized : String → String) (runs : ℕ → SyncRun) where
  catalog : SkuCatalog skuNormalized
  processed : List (PageOf runs)

variable (runs) in
inductive SkuRequest
  | page (warehouseIds : List ℕ) (page : PageOf runs)
  | createWorkSku (warehouseId : ℕ) (sku itemName username : String)

def serveSku (state : SkuSync skuNormalized runs) :
    SkuRequest runs → SkuSync skuNormalized runs
  | .page warehouseIds page =>
      match syncSitegiantSkus warehouseIds page.request state.catalog with
      | .ok (catalog, _) => ⟨catalog, state.processed ++ [page]⟩
      | .error _ => state
  | .createWorkSku warehouseId sku itemName username =>
      match createWorkSku warehouseId sku itemName username state.catalog with
      | .ok catalog => { state with catalog := catalog }
      | .error _ => state

/-! ## What one page does to a row -/

/-- The row holds the item as the run captured it. -/
structure Holds (request : SiteGiantSkuSyncRequest) (item : SiteGiantSkuItem)
    (row : WorkSku) : Prop where
  warehouseId : row.warehouseId = request.warehouseId
  sku : row.sku = item.sku
  itemName : row.itemName = item.itemName
  sourceSystem : row.sourceSystem = .sitegiant
  sourceItemId : row.sourceItemId = item.sourceItemId
  sourceItemUrl : row.sourceItemUrl = item.sourceItemUrl
  imageUrl : row.imageUrl = item.imageUrl
  lastSyncRun : row.lastSyncRun = some request.syncRunId
  syncedAt : row.syncedAt = some request.capturedAt

theorem lookup_syncItem (request : SiteGiantSkuSyncRequest)
    (catalog : SkuCatalog skuNormalized) (item : SiteGiantSkuItem) (k : ℕ × String) :
    (k = (request.warehouseId, skuNormalized item.sku) ∧
      ∃ row, (syncItem request catalog item).lookup k = some row ∧
        Holds request item row ∧ row.isActive = true) ∨
    (k ≠ (request.warehouseId, skuNormalized item.sku) ∧
      (syncItem request catalog item).lookup k = catalog.lookup k) := by
  have hlookup := Keyed.lookup_upsert catalog (syncedRow request item)
  by_cases hk : k = (request.warehouseId, skuNormalized item.sku)
  · left
    refine ⟨hk, _, (hlookup _ _ k).trans (if_pos hk), ?_⟩
    cases hold : catalog.lookup k with
    | none => exact ⟨⟨rfl, rfl, rfl, rfl, rfl, rfl, rfl, rfl, rfl⟩, rfl⟩
    | some old =>
        have hwarehouse : old.warehouseId = request.warehouseId :=
          congrArg Prod.fst ((Keyed.key_of_lookup hold).trans hk)
        exact ⟨⟨hwarehouse, rfl, rfl, rfl, rfl, rfl, rfl, rfl, rfl⟩, rfl⟩
  · exact Or.inr ⟨hk, (hlookup _ _ k).trans (if_neg hk)⟩

/-- After the items of a page are written, a row is one of them or as it was. -/
theorem lookup_syncItems (request : SiteGiantSkuSyncRequest)
    (items : List SiteGiantSkuItem) (catalog : SkuCatalog skuNormalized)
    (k : ℕ × String) :
    (∃ item ∈ items, k = (request.warehouseId, skuNormalized item.sku) ∧
      ∃ row, (items.foldl (syncItem request) catalog).lookup k = some row ∧
        Holds request item row ∧ row.isActive = true) ∨
    ((∀ item ∈ items, k ≠ (request.warehouseId, skuNormalized item.sku)) ∧
      (items.foldl (syncItem request) catalog).lookup k = catalog.lookup k) := by
  induction items generalizing catalog with
  | nil => exact Or.inr ⟨fun _ hitem => (List.not_mem_nil hitem).elim, rfl⟩
  | cons item rest ih =>
      rw [List.foldl_cons]
      cases ih (syncItem request catalog item) with
      | inl hlater =>
          obtain ⟨later, hmem, hrow⟩ := hlater
          exact Or.inl ⟨later, List.mem_cons_of_mem item hmem, hrow⟩
      | inr huntouched =>
          obtain ⟨hrest, hkept⟩ := huntouched
          cases lookup_syncItem request catalog item k with
          | inl hhere =>
              obtain ⟨hk, row, hlookup, hholds⟩ := hhere
              exact Or.inl ⟨item, List.mem_cons_self, hk, row, hkept.trans hlookup, hholds⟩
          | inr hother =>
              obtain ⟨hk, hsame⟩ := hother
              exact Or.inr ⟨List.forall_mem_cons.mpr ⟨hk, hrest⟩, hkept.trans hsame⟩

theorem lookup_deactivateUnlisted (request : SiteGiantSkuSyncRequest)
    (catalog : SkuCatalog skuNormalized) (k : ℕ × String) :
    (deactivateUnlisted request catalog).lookup k =
      (catalog.lookup k).map fun row =>
        if unlisted request row then { row with isActive := false } else row :=
  Keyed.lookup_modify catalog _ _ _ k

theorem PageOf.mem_keys {page : PageOf runs} {k : ℕ × String} :
    k ∈ page.keys skuNormalized ↔
      ∃ item ∈ page.items, k = (page.request.warehouseId, skuNormalized item.sku) := by
  rw [PageOf.keys, List.mem_map]
  exact exists_congr fun item => and_congr_right fun _ => eq_comm

variable (skuNormalized) in
/-- The rows of a page are written; the completion of the run deactivates some of the
others. -/
inductive RowStep (page : PageOf runs) (before : Option WorkSku) (k : ℕ × String) :
    Option WorkSku → Prop
  | written (item : SiteGiantSkuItem) (row : WorkSku) (hkey : k ∈ page.keys skuNormalized)
      (hitem : item ∈ page.items) (hholds : Holds page.request item row)
      (hactive : row.isActive = true) : RowStep page before k (some row)
  | kept (hkey : k ∉ page.keys skuNormalized)
      (hlisted : ∀ row, before = some row → page.IsLast →
        unlisted page.request row = false) : RowStep page before k before
  | deactivated (row : WorkSku) (hkey : k ∉ page.keys skuNormalized)
      (hbefore : before = some row) (hlast : page.IsLast)
      (hunlisted : unlisted page.request row = true) :
      RowStep page before k (some { row with isActive := false })

variable {row : WorkSku}

theorem not_unlisted_of_holds {request : SiteGiantSkuSyncRequest}
    {item : SiteGiantSkuItem} (hholds : Holds request item row) :
    unlisted request row = false := by
  simp [unlisted, hholds.lastSyncRun]

theorem rowStep_syncItems (page : PageOf runs) (catalog : SkuCatalog skuNormalized)
    (hlast : ¬ page.IsLast) (k : ℕ × String) :
    RowStep skuNormalized page (catalog.lookup k) k
      ((syncItems page.request catalog).lookup k) := by
  cases lookup_syncItems page.request page.items catalog k with
  | inl hwritten =>
      obtain ⟨item, hitem, hk, row, hlookup, hholds, hactive⟩ := hwritten
      have hfound : (syncItems page.request catalog).lookup k = some row := hlookup
      rw [hfound]
      exact .written item row (PageOf.mem_keys.mpr ⟨item, hitem, hk⟩) hitem hholds hactive
  | inr hother =>
      obtain ⟨hkeys, hsame⟩ := hother
      have hkept : (syncItems page.request catalog).lookup k = catalog.lookup k := hsame
      rw [hkept]
      apply RowStep.kept
      · intro hmem
        obtain ⟨item, hitem, hk⟩ := PageOf.mem_keys.mp hmem
        exact hkeys item hitem hk
      · exact fun _ _ hcompletes => (hlast hcompletes).elim

theorem rowStep_deactivateUnlisted (page : PageOf runs)
    (catalog : SkuCatalog skuNormalized) (hlast : page.IsLast) (k : ℕ × String) :
    RowStep skuNormalized page (catalog.lookup k) k
      ((deactivateUnlisted page.request (syncItems page.request catalog)).lookup k) := by
  rw [lookup_deactivateUnlisted]
  cases lookup_syncItems page.request page.items catalog k with
  | inl hwritten =>
      obtain ⟨item, hitem, hk, row, hlookup, hholds, hactive⟩ := hwritten
      have hfound : (syncItems page.request catalog).lookup k = some row := hlookup
      rw [hfound, Option.map_some, not_unlisted_of_holds hholds]
      exact .written item row (PageOf.mem_keys.mpr ⟨item, hitem, hk⟩) hitem hholds hactive
  | inr hother =>
      obtain ⟨hkeys, hsame⟩ := hother
      have hkept : (syncItems page.request catalog).lookup k = catalog.lookup k := hsame
      have hkey : k ∉ page.keys skuNormalized := by
        intro hmem
        obtain ⟨item, hitem, hk⟩ := PageOf.mem_keys.mp hmem
        exact hkeys item hitem hk
      rw [hkept]
      cases hrow : catalog.lookup k with
      | none => exact .kept hkey fun _ hnone => nomatch hnone
      | some row =>
          rw [Option.map_some]
          cases hunlisted : unlisted page.request row with
          | true => exact .deactivated row hkey rfl hlast hunlisted
          | false =>
              apply RowStep.kept hkey
              intro other hother _
              rw [← Option.some.inj hother, hunlisted]

/-- What an accepted page makes of every row. -/
theorem rowStep_of_accepted {warehouseIds : List ℕ} {page : PageOf runs}
    {catalog served : SkuCatalog skuNormalized} {response : SkuSyncResponse}
    (haccepted : syncSitegiantSkus warehouseIds page.request catalog =
      .ok (served, response)) (k : ℕ × String) :
    RowStep skuNormalized page (catalog.lookup k) k
      (served.lookup k) := by
  simp only [syncSitegiantSkus, bind_eq_ok, require_eq_ok, pure_eq_ok, Prod.mk.injEq] at haccepted
  obtain ⟨_, -, rfl, -⟩ := haccepted
  by_cases hlast : page.request.page = page.request.totalPages
  · rw [if_pos (decide_eq_true hlast)]
    exact rowStep_deactivateUnlisted page catalog hlast k
  · rw [if_neg (by simpa using hlast)]
    exact rowStep_syncItems page catalog hlast k

/-! ## What the sync is for -/

def ActiveAt (catalog : SkuCatalog skuNormalized) (k : ℕ × String) : Prop :=
  ∃ row, catalog.lookup k = some row ∧ row.isActive = true

/-- No row goes back to data captured earlier. -/
def NeverBack (before after : SkuCatalog skuNormalized) : Prop :=
  ∀ k row captured, before.lookup k = some row → row.syncedAt = some captured →
    ∃ row' captured', after.lookup k = some row' ∧ row'.syncedAt = some captured' ∧
      captured ≤ captured'

/-- A page leaves active what its run has sent, the page included. -/
def SparesOwn (state : SkuSync skuNormalized runs) (page : PageOf runs)
    (after : SkuCatalog skuNormalized) : Prop :=
  ∀ own ∈ state.processed ++ [page], own.syncRunId = page.syncRunId →
    ∀ k ∈ own.keys skuNormalized,
      ActiveAt state.catalog k ∨ k ∈ page.keys skuNormalized → ActiveAt after k

variable (runs) in
/-- The active SiteGiant rows of the warehouse are the items of the run. -/
def Mirrors (runId : ℕ) (catalog : SkuCatalog skuNormalized) : Prop :=
  (∀ row ∈ catalog.rows, row.warehouseId = (runs runId).warehouseId →
    row.sourceSystem = .sitegiant → row.isActive = true →
      ∃ page : PageOf runs, page.syncRunId = runId ∧
        ∃ item ∈ page.items, Holds page.request item row) ∧
  ∀ page : PageOf runs, page.syncRunId = runId →
    ∀ k ∈ page.keys skuNormalized, ∃ row, catalog.lookup k = some row ∧
      row.sourceSystem = .sitegiant ∧ row.isActive = true

/-- The run was captured after every other one that sent to its warehouse. -/
def Newest (runId : ℕ) (processed : List (PageOf runs)) : Prop :=
  ∀ page ∈ processed, page.sender.warehouseId = (runs runId).warehouseId →
    page.syncRunId ≠ runId → page.sender.capturedAt < (runs runId).capturedAt

/-- Once the newest run is processed whole, the catalogue is that run's. -/
def Converged (state : SkuSync skuNormalized runs) : Prop :=
  ∀ runId, (∀ page : PageOf runs, page.syncRunId = runId → page ∈ state.processed) →
    Newest runId state.processed → Mirrors runs runId state.catalog

/-- What a request keeps. -/
def KeepsNewest (state : SkuSync skuNormalized runs) (request : SkuRequest runs) : Prop :=
  NeverBack state.catalog (serveSku state request).catalog ∧
  Converged (serveSku state request) ∧
  match request with
  | .page warehouseIds page =>
      page.sender.warehouseId ∈ warehouseIds → SparesOwn state page (serveSku state request).catalog
  | .createWorkSku .. => True

variable (skuNormalized runs) in
/-- One of the pages of the run names the row. -/
def Lists (runId : ℕ) (k : ℕ × String) : Prop :=
  ∃ index : Fin (runs runId).pages.length, k ∈ (⟨runId, index⟩ : PageOf runs).keys skuNormalized

instance (runId : ℕ) (k : ℕ × String) : Decidable (Lists skuNormalized runs runId k) :=
  inferInstanceAs (Decidable (∃ _, _))

/-- An active row another run has written, captured at the same moment. -/
def Tied (page : PageOf runs) (row : WorkSku) : Prop :=
  row.isActive = true ∧ row.syncedAt = some page.sender.capturedAt ∧
    row.lastSyncRun ≠ some page.syncRunId

instance (page : PageOf runs) (row : WorkSku) : Decidable (Tied page row) :=
  inferInstanceAs (Decidable (_ ∧ _))

/-- No row an earlier page of the run has sent is tied, the page's own apart. -/
def Untied (state : SkuSync skuNormalized runs) (page : PageOf runs) : Prop :=
  ∀ own ∈ state.processed, own.syncRunId = page.syncRunId →
    ∀ k ∈ own.keys skuNormalized, k ∉ page.keys skuNormalized →
      ∀ row ∈ state.catalog.lookup k, ¬ Tied page row

instance (state : SkuSync skuNormalized runs) (page : PageOf runs) :
    Decidable (Untied state page) :=
  inferInstanceAs (Decidable (∀ own ∈ state.processed, _ → ∀ k ∈ own.keys _, _ → ∀ _ ∈ _, _))

/-- A page that no newer capture has overtaken: its rows hold nothing newer, a newer run
whose last page is in names them too, and at its own run's last page no run captured at
the same moment has overwritten the run's rows. -/
structure InTime (state : SkuSync skuNormalized runs) (page : PageOf runs) : Prop where
  notStale : ∀ k ∈ page.keys skuNormalized, ∀ row ∈ state.catalog.lookup k,
    ∀ captured ∈ row.syncedAt, captured ≤ page.sender.capturedAt
  notRetired : ∀ last ∈ state.processed, last.IsLast →
    last.sender.warehouseId = page.sender.warehouseId →
    page.sender.capturedAt < last.sender.capturedAt →
      ∀ k ∈ page.keys skuNormalized, Lists skuNormalized runs last.syncRunId k
  untied : page.IsLast → Untied state page

instance (state : SkuSync skuNormalized runs) (page : PageOf runs) :
    Decidable (InTime state page) :=
  decidable_of_iff (_ ∧ _ ∧ _)
    ⟨fun ⟨hstale, hretired, htied⟩ => ⟨hstale, hretired, htied⟩,
      fun hintime => ⟨hintime.notStale, hintime.notRetired, hintime.untied⟩⟩

def Timely (state : SkuSync skuNormalized runs) : SkuRequest runs → Prop
  | .page warehouseIds page =>
      page.sender.warehouseId ∈ warehouseIds → InTime state page
  | .createWorkSku .. => True

instance (state : SkuSync skuNormalized runs) :
    ∀ request, Decidable (Timely state request)
  | .page _ _ => inferInstanceAs (Decidable (_ → _))
  | .createWorkSku .. => .isTrue trivial

/-! ## Where the rows of the catalogue come from -/

/-- A row is manual, or an item of a processed page. -/
def Sourced (processed : List (PageOf runs)) (row : WorkSku) : Prop :=
  (row.sourceSystem = .manual ∧ row.syncedAt = none) ∨
    ∃ page ∈ processed, ∃ item ∈ page.items, Holds page.request item row

structure Synced (state : SkuSync skuNormalized runs) : Prop where
  sourced : ∀ k row, state.catalog.lookup k = some row → Sourced state.processed row
  written : ∀ page ∈ state.processed, ∀ k ∈ page.keys skuNormalized, ∃ row captured,
    state.catalog.lookup k = some row ∧ row.sourceSystem = .sitegiant ∧
      row.syncedAt = some captured ∧ page.sender.capturedAt ≤ captured
  inactive : ∀ k row captured, state.catalog.lookup k = some row →
    row.syncedAt = some captured → row.isActive = false →
      ∃ last ∈ state.processed, last.sender.warehouseId = row.warehouseId ∧
        row.lastSyncRun ≠ some last.syncRunId ∧ captured ≤ last.sender.capturedAt
  retired : ∀ last ∈ state.processed, last.IsLast → ∀ k row captured,
    state.catalog.lookup k = some row → row.isActive = true →
      row.syncedAt = some captured → row.warehouseId = last.sender.warehouseId →
      captured < last.sender.capturedAt → Lists skuNormalized runs last.syncRunId k

/-- A catalogue no page has written yet. -/
def Unsynced (catalog : SkuCatalog skuNormalized) : Prop :=
  ∀ row ∈ catalog.rows, row.sourceSystem = .manual ∧ row.syncedAt = none

theorem synced_start (catalog : SkuCatalog skuNormalized) (hunsynced : Unsynced catalog) :
    Synced (⟨catalog, []⟩ : SkuSync skuNormalized runs) where
  sourced := fun _ row hrow => Or.inl (hunsynced row (Keyed.lookup_eq_some_iff.mp hrow).1)
  written := fun _ hpage => (List.not_mem_nil hpage).elim
  inactive := by
    intro k row captured hrow hsynced _
    have hnone := (hunsynced row (Keyed.lookup_eq_some_iff.mp hrow).1).2
    rw [hnone] at hsynced
    cases hsynced
  retired := fun _ hlast => (List.not_mem_nil hlast).elim

theorem sitegiant_of_syncedAt {processed : List (PageOf runs)} {captured : ℤ}
    (hsourced : Sourced processed row) (hsynced : row.syncedAt = some captured) :
    ∃ page ∈ processed, page.sender.capturedAt = captured ∧
      page.sender.warehouseId = row.warehouseId ∧
      row.lastSyncRun = some page.syncRunId ∧
      ∃ item ∈ page.items, Holds page.request item row := by
  cases hsourced with
  | inl hmanual =>
      rw [hmanual.2] at hsynced
      cases hsynced
  | inr hpage =>
      obtain ⟨page, hmem, item, hitem, hholds⟩ := hpage
      have hcaptured : page.sender.capturedAt = captured :=
        Option.some.inj (hholds.syncedAt.symm.trans hsynced)
      exact ⟨page, hmem, hcaptured, hholds.warehouseId.symm, hholds.lastSyncRun, item,
        hitem, hholds⟩

/-- The newest run's rows are active, and no others. -/
theorem converged_of_synced {state : SkuSync skuNormalized runs}
    (hsynced : Synced state) : Converged state := by
  intro runId hwhole hnewest
  constructor
  · intro row hrow hwarehouse hsource hactive
    have hlookup := Keyed.lookup_eq_some_iff.mpr ⟨hrow, rfl⟩
    have hsourced := hsynced.sourced _ row hlookup
    cases hsourced with
    | inl hmanual =>
        rw [hmanual.1] at hsource
        cases hsource
    | inr hpage =>
        obtain ⟨page, hmem, item, hitem, hholds⟩ := hpage
        by_cases hrun : page.syncRunId = runId
        · exact ⟨page, hrun, item, hitem, hholds⟩
        · have holder : page.sender.capturedAt < (runs runId).capturedAt :=
            hnewest page hmem (hholds.warehouseId.symm.trans hwarehouse) hrun
          have hpages := List.length_pos_of_ne_nil (runs runId).pages_ne
          let last : PageOf runs :=
            ⟨runId, ⟨(runs runId).pages.length - 1, Nat.sub_lt hpages Nat.one_pos⟩⟩
          obtain ⟨index, hkey⟩ :=
            hsynced.retired last (hwhole last rfl) (Nat.sub_add_cancel hpages) _ row _
              hlookup hactive hholds.syncedAt hwarehouse holder
          obtain ⟨other, captured, hother, -, hcaptured, hle⟩ :=
            hsynced.written ⟨runId, index⟩ (hwhole _ rfl) _ hkey
          have hsame : other = row := Option.some.inj (hother.symm.trans hlookup)
          have hwhen : captured = page.sender.capturedAt := by
            rw [hsame] at hcaptured
            exact Option.some.inj (hcaptured.symm.trans hholds.syncedAt)
          have hnever : (runs runId).capturedAt ≤ page.sender.capturedAt := hwhen ▸ hle
          omega
  · intro page hrun k hkey
    obtain ⟨row, captured, hlookup, hsource, hcaptured, hle⟩ :=
      hsynced.written page (hwhole page hrun) k hkey
    refine ⟨row, hlookup, hsource, ?_⟩
    have hsender : page.sender = runs runId := congrArg runs hrun
    have hwarehouse : row.warehouseId = (runs runId).warehouseId := by
      obtain ⟨item, -, hk⟩ := PageOf.mem_keys.mp hkey
      have hfst := congrArg Prod.fst ((Keyed.key_of_lookup hlookup).trans hk)
      exact hfst.trans (congrArg SyncRun.warehouseId hsender)
    rw [hsender] at hle
    obtain ⟨writer, hwriter, hwhen, hplace, hstamp, -⟩ :=
      sitegiant_of_syncedAt (hsynced.sourced k row hlookup) hcaptured
    by_contra hinactive
    obtain ⟨last, hlast, hlastplace, hdistinct, hlater⟩ :=
      hsynced.inactive k row captured hlookup hcaptured (by simpa using hinactive)
    -- The row is the newest run's, so the run that deactivated it is an older one.
    have hown : writer.syncRunId = runId := by
      by_contra hother
      have := hnewest writer hwriter (hplace.trans hwarehouse) hother
      omega
    have holder := hnewest last hlast (hlastplace.trans hwarehouse) (by
      intro hsame
      exact hdistinct (hstamp.trans (congrArg some (hown.trans hsame.symm))))
    omega

/-! ## A page in time -/

namespace RowStep

variable {page : PageOf runs} {before after : Option WorkSku} {k : ℕ × String}

theorem of_mem (hstep : RowStep skuNormalized page before k after)
    (hkey : k ∈ page.keys skuNormalized) :
    ∃ row item, after = some row ∧ item ∈ page.items ∧ Holds page.request item row ∧
      row.isActive = true := by
  cases hstep with
  | written item row _ hitem hholds hactive => exact ⟨row, item, rfl, hitem, hholds, hactive⟩
  | kept hother => exact (hother hkey).elim
  | deactivated row hother => exact (hother hkey).elim

/-- A row stays under its key, with its time and source when the page does not name it. -/
theorem stays (hstep : RowStep skuNormalized page (some row) k after)
    (hkey : k ∉ page.keys skuNormalized) :
    ∃ row', after = some row' ∧ row'.syncedAt = row.syncedAt ∧
      row'.sourceSystem = row.sourceSystem := by
  cases hstep with
  | written item row hmem => exact (hkey hmem).elim
  | kept => exact ⟨row, rfl, rfl, rfl⟩
  | deactivated old _ hbefore =>
      cases hbefore
      exact ⟨_, rfl, rfl, rfl⟩

theorem stays_active (hstep : RowStep skuNormalized page (some row) k after)
    (hkey : k ∉ page.keys skuNormalized) (hactive : row.isActive = true)
    (hlisted : page.IsLast → unlisted page.request row = false) :
    ∃ row', after = some row' ∧ row'.isActive = true := by
  cases hstep with
  | written item row hmem => exact (hkey hmem).elim
  | kept => exact ⟨row, rfl, hactive⟩
  | deactivated old _ hbefore hlast hunlisted =>
      cases hbefore
      rw [hlisted hlast] at hunlisted
      cases hunlisted

end RowStep

variable {state : SkuSync skuNormalized runs} {page : PageOf runs}
variable {served : SkuCatalog skuNormalized}

theorem unlisted_iff {request : SiteGiantSkuSyncRequest} :
    unlisted request row = true ↔
      row.warehouseId = request.warehouseId ∧ row.sourceSystem = .sitegiant ∧
        row.isActive = true ∧ row.lastSyncRun ≠ some request.syncRunId ∧
        ∀ captured, row.syncedAt = some captured → captured ≤ request.capturedAt := by
  cases hsynced : row.syncedAt <;> simp [unlisted, hsynced]

theorem neverBack_of_inTime (hintime : InTime state page)
    (hsteps : ∀ k, RowStep skuNormalized page (state.catalog.lookup k) k
      (served.lookup k)) : NeverBack state.catalog served := by
  intro k row captured hrow hcaptured
  have hstep := hsteps k
  rw [hrow] at hstep
  by_cases hkey : k ∈ page.keys skuNormalized
  · obtain ⟨row', item, hrow', -, hholds, -⟩ := hstep.of_mem hkey
    exact ⟨row', _, hrow', hholds.syncedAt, hintime.notStale k hkey row hrow captured hcaptured⟩
  · obtain ⟨row', hrow', hsame, -⟩ := hstep.stays hkey
    exact ⟨row', captured, hrow', hsame.trans hcaptured, le_rfl⟩

theorem sparesOwn_of_inTime (hsynced : Synced state) (hintime : InTime state page)
    (hsteps : ∀ k, RowStep skuNormalized page (state.catalog.lookup k) k
      (served.lookup k)) : SparesOwn state page served := by
  intro own hown hrun k hkey hactive
  have hstep := hsteps k
  by_cases hhere : k ∈ page.keys skuNormalized
  · obtain ⟨row, item, hrow, -, -, hrowactive⟩ := hstep.of_mem hhere
    exact ⟨row, hrow, hrowactive⟩
  · obtain ⟨row, hrow, hrowactive⟩ := hactive.resolve_right hhere
    have hearlier : own ∈ state.processed := by
      cases List.mem_append.mp hown with
      | inl hold => exact hold
      | inr hnew => exact (hhere (List.mem_singleton.mp hnew ▸ hkey)).elim
    obtain ⟨same, captured, hsame, -, hcaptured, hle⟩ := hsynced.written own hearlier k hkey
    obtain rfl : same = row := Option.some.inj (hsame.symm.trans hrow)
    rw [hrow] at hstep
    apply hstep.stays_active hhere hrowactive
    intro hlast
    by_contra hunlisted
    obtain ⟨-, -, -, hdistinct, hbefore⟩ := unlisted_iff.mp (by simpa using hunlisted)
    have htie : captured = page.sender.capturedAt := by
      apply le_antisymm (hbefore captured hcaptured)
      exact (congrArg SyncRun.capturedAt (PageOf.sender_congr hrun)).ge.trans hle
    rw [htie] at hcaptured
    exact hintime.untied hlast own hearlier hrun k hkey hhere same hrow
      ⟨hrowactive, hcaptured, hdistinct⟩

theorem synced_of_inTime (hsynced : Synced state) (hintime : InTime state page)
    (hsteps : ∀ k, RowStep skuNormalized page (state.catalog.lookup k) k
      (served.lookup k)) : Synced ⟨served, state.processed ++ [page]⟩ where
  sourced := by
    intro k row hrow
    have hstep := hsteps k
    have hold : ∀ old, state.catalog.lookup k = some old →
        Sourced (state.processed ++ [page]) old := by
      intro old hlookup
      apply (hsynced.sourced k old hlookup).imp_right
      rintro ⟨writer, hwriter, hitem⟩
      exact ⟨writer, List.mem_append_left _ hwriter, hitem⟩
    change served.lookup k = some row at hrow
    rw [hrow] at hstep
    generalize hbefore : state.catalog.lookup k = before at hstep
    cases hstep with
    | written item row _ hitem hholds =>
        exact Or.inr ⟨page, List.mem_append_right _ (List.mem_singleton_self page), item,
          hitem, hholds⟩
    | kept => exact hold row hbefore
    | deactivated old _ hsome _ hunlisted =>
        cases hold old (hbefore.trans hsome) with
        | inl hmanual =>
            have hsource := (unlisted_iff.mp hunlisted).2.1
            rw [hmanual.1] at hsource
            cases hsource
        | inr hpage =>
            obtain ⟨writer, hwriter, item, hitem, hholds⟩ := hpage
            exact Or.inr ⟨writer, hwriter, item, hitem,
              { hholds with }⟩
  written := by
    intro writer hwriter k hkey
    have hstep := hsteps k
    by_cases hhere : k ∈ page.keys skuNormalized
    · obtain ⟨row, item, hrow, -, hholds, -⟩ := hstep.of_mem hhere
      refine ⟨row, _, hrow, hholds.sourceSystem, hholds.syncedAt, ?_⟩
      cases List.mem_append.mp hwriter with
      | inl hearlier =>
          obtain ⟨old, captured, hold, -, hcaptured, hle⟩ := hsynced.written writer hearlier k hkey
          exact hle.trans (hintime.notStale k hhere old hold captured hcaptured)
      | inr hnew => rw [List.mem_singleton.mp hnew]; rfl
    · cases List.mem_append.mp hwriter with
      | inl hearlier =>
          obtain ⟨old, captured, hold, hsource, hcaptured, hle⟩ :=
            hsynced.written writer hearlier k hkey
          rw [hold] at hstep
          obtain ⟨row, hrow, hsame, hsamesource⟩ := hstep.stays hhere
          exact ⟨row, captured, hrow, hsamesource.trans hsource, hsame.trans hcaptured, hle⟩
      | inr hnew => exact (hhere (List.mem_singleton.mp hnew ▸ hkey)).elim
  inactive := by
    intro k row captured hrow hcaptured hinactive
    have hstep := hsteps k
    change served.lookup k = some row at hrow
    rw [hrow] at hstep
    generalize hbefore : state.catalog.lookup k = before at hstep
    cases hstep with
    | written item row _ _ _ hactive =>
        rw [hactive] at hinactive
        cases hinactive
    | kept =>
        obtain ⟨last, hlast, hrest⟩ := hsynced.inactive k row captured hbefore hcaptured hinactive
        exact ⟨last, List.mem_append_left _ hlast, hrest⟩
    | deactivated old _ hsome _ hunlisted =>
        obtain ⟨hplace, -, -, hdistinct, hle⟩ := unlisted_iff.mp hunlisted
        exact ⟨page, List.mem_append_right _ (List.mem_singleton_self page), hplace.symm,
          hdistinct, hle captured hcaptured⟩
  retired := by
    intro last hlast hislast k row captured hrow hactive hcaptured hplace holder
    have hstep := hsteps k
    change served.lookup k = some row at hrow
    rw [hrow] at hstep
    generalize hbefore : state.catalog.lookup k = before at hstep
    cases hstep with
    | written item row hkey _ hholds =>
        have hwhen : page.sender.capturedAt = captured :=
          Option.some.inj (hholds.syncedAt.symm.trans hcaptured)
        cases List.mem_append.mp hlast with
        | inl hearlier =>
            exact hintime.notRetired last hearlier hislast
              (hplace.symm.trans hholds.warehouseId) (hwhen ▸ holder) k hkey
        | inr hnew =>
            rw [List.mem_singleton.mp hnew] at holder
            omega
    | kept _ hlisted =>
        cases List.mem_append.mp hlast with
        | inl hearlier =>
            exact hsynced.retired last hearlier hislast k row captured hbefore hactive
              hcaptured hplace holder
        | inr hnew =>
            obtain rfl := List.mem_singleton.mp hnew
            exfalso
            obtain ⟨writer, -, hwhen, -, hstamp, item, -, hholds⟩ :=
              sitegiant_of_syncedAt (hsynced.sourced k row hbefore) hcaptured
            -- An older row that stays active would have to be the completing run's own.
            have hown : row.lastSyncRun ≠ some last.syncRunId := by
              intro hsame
              have hrun := PageOf.sender_congr (Option.some.inj (hstamp.symm.trans hsame))
              rw [hrun] at hwhen
              omega
            have hunlisted : unlisted last.request row = true := by
              refine unlisted_iff.mpr ⟨hplace, hholds.sourceSystem, hactive, hown, ?_⟩
              intro other hother
              rw [hcaptured] at hother
              exact (Option.some.inj hother) ▸ holder.le
            rw [hlisted row rfl hislast] at hunlisted
            cases hunlisted
    | deactivated => cases hactive

/-! ## A catalogue served in time -/

theorem synced_createWorkSku {warehouseId : ℕ} {sku itemName username : String}
    (hsynced : Synced state)
    (hcreated : createWorkSku warehouseId sku itemName username state.catalog = .ok served) :
    NeverBack state.catalog served ∧ Synced { state with catalog := served } := by
  rw [createWorkSku] at hcreated
  split at hcreated
  · rename_i hfree
    obtain rfl := Except.ok.inj hcreated
    have hkept : ∀ k row, state.catalog.lookup k = some row →
        (state.catalog.insertNew _ hfree).lookup k = some row := by
      intro k row hrow
      rw [Keyed.lookup_insertNew, if_neg, hrow]
      rintro rfl
      rw [hfree] at hrow
      cases hrow
    have hnew : ∀ k row, (state.catalog.insertNew _ hfree).lookup k = some row →
        state.catalog.lookup k = some row ∨
          (row.sourceSystem = .manual ∧ row.syncedAt = none) := by
      intro k row hrow
      rw [Keyed.lookup_insertNew] at hrow
      split at hrow
      · cases hrow
        exact Or.inr ⟨rfl, rfl⟩
      · exact Or.inl hrow
    have hold : ∀ k row captured, (state.catalog.insertNew _ hfree).lookup k = some row →
        row.syncedAt = some captured → state.catalog.lookup k = some row := by
      intro k row captured hrow hcaptured
      apply (hnew k row hrow).resolve_right
      rintro ⟨-, hnone⟩
      rw [hnone] at hcaptured
      cases hcaptured
    constructor
    · intro k row captured hrow hcaptured
      exact ⟨row, captured, hkept k row hrow, hcaptured, le_rfl⟩
    · constructor
      · intro k row hrow
        exact (hnew k row hrow).elim (hsynced.sourced k row) Or.inl
      · intro page hpage k hkey
        obtain ⟨row, captured, hrow, hrest⟩ := hsynced.written page hpage k hkey
        exact ⟨row, captured, hkept k row hrow, hrest⟩
      · intro k row captured hrow hcaptured
        exact hsynced.inactive k row captured (hold k row captured hrow hcaptured) hcaptured
      · intro last hlast hislast k row captured hrow hactive hcaptured
        exact hsynced.retired last hlast hislast k row captured
          (hold k row captured hrow hcaptured) hactive hcaptured
  · cases hcreated

theorem neverBack_refl (catalog : SkuCatalog skuNormalized) : NeverBack catalog catalog :=
  fun _ row captured hrow hcaptured => ⟨row, captured, hrow, hcaptured, le_rfl⟩

/-- A request in time keeps the account of the rows, and with it the newest data. -/
theorem keepsNewest_of_timely (state : SkuSync skuNormalized runs)
    (request : SkuRequest runs) (hsynced : Synced state) (htimely : Timely state request) :
    Synced (serveSku state request) ∧ KeepsNewest state request := by
  cases request with
  | page warehouseIds page =>
      cases hserved : syncSitegiantSkus warehouseIds page.request state.catalog with
      | error refusal =>
          have hkept : serveSku state (.page warehouseIds page) = state := by
            rw [serveSku, hserved]
          rw [KeepsNewest, hkept]
          refine ⟨hsynced, neverBack_refl _, converged_of_synced hsynced, ?_⟩
          intro hscope
          have hallowed : page.request.warehouseId ∈ warehouseIds := hscope
          rw [syncSitegiantSkus, require_bind hallowed] at hserved
          cases hserved
      | ok answer =>
          obtain ⟨served, response⟩ := answer
          have hscope : page.sender.warehouseId ∈ warehouseIds := by
            simp only [syncSitegiantSkus, bind_eq_ok, require_eq_ok] at hserved
            exact hserved.choose_spec.1
          have hintime := htimely hscope
          have hsteps := rowStep_of_accepted hserved
          have hnext : serveSku state (.page warehouseIds page) =
              ⟨served, state.processed ++ [page]⟩ := by
            rw [serveSku, hserved]
          have hafter := synced_of_inTime hsynced hintime hsteps
          rw [KeepsNewest, hnext]
          exact ⟨hafter, neverBack_of_inTime hintime hsteps, converged_of_synced hafter,
            fun _ => sparesOwn_of_inTime hsynced hintime hsteps⟩
  | createWorkSku warehouseId sku itemName username =>
      cases hcreated : createWorkSku warehouseId sku itemName username state.catalog with
      | error refusal =>
          have hkept : serveSku state (.createWorkSku warehouseId sku itemName username) =
              state := by
            rw [serveSku, hcreated]
          rw [KeepsNewest, hkept]
          exact ⟨hsynced, neverBack_refl _, converged_of_synced hsynced, trivial⟩
      | ok served =>
          obtain ⟨hback, hafter⟩ := synced_createWorkSku hsynced hcreated
          have hnext : serveSku state (.createWorkSku warehouseId sku itemName username) =
              { state with catalog := served } := by
            rw [serveSku, hcreated]
          rw [KeepsNewest, hnext]
          exact ⟨hafter, hback, converged_of_synced hafter, trivial⟩

/-- In every run whose pages come in time, no row goes back to older data, no run
deactivates what it sent, and the newest run processed whole is the catalogue. -/
theorem newest_capture_kept (start : SkuCatalog skuNormalized) (hunsynced : Unsynced start)
    (requests : List (SkuRequest runs))
    (htimely : Along serveSku Timely ⟨start, []⟩ requests) :
    Along serveSku KeepsNewest ⟨start, []⟩ requests :=
  along_of_invariant
    (fun state request hsynced hsafe => (keepsNewest_of_timely state request hsynced hsafe).1)
    (fun state request hsynced hsafe => (keepsNewest_of_timely state request hsynced hsafe).2)
    (synced_start start hunsynced) htimely

namespace CapturedTwice

def item (sku itemName : String) : SiteGiantSkuItem where
  sku := sku
  itemName := itemName
  sourceItemId := none
  sourceItemUrl := none
  imageUrl := none

def pageOf (first : SiteGiantSkuItem) : SkuPage where
  items := [first]
  items_ne := List.cons_ne_nil _ _
  items_le := Nat.le_add_left 1 99

def runOf (capturedAt : ℤ) (first : SiteGiantSkuItem) (rest : List SkuPage)
    (hrest : rest.length < 100) : SyncRun where
  warehouseId := 1
  capturedAt := capturedAt
  totalItems := rest.length + 1
  pages := pageOf first :: rest
  pages_ne := List.cons_ne_nil _ _
  pages_le := by rw [List.length_cons]; omega
  totalItems_pos := Nat.le_add_left 1 _
  totalItems_le := by omega

/-- A first capture, and two of a later moment. -/
def captures : ℕ → SyncRun
  | 0 => runOf 10 (item "A" "old") [pageOf (item "B" "dropped")] (by decide)
  | 1 => runOf 20 (item "A" "new") [pageOf (item "C" "added")] (by decide)
  | _ => runOf 20 (item "A" "new too") [] (by decide)

def send (runId index : ℕ)
    (hindex : index < (captures runId).pages.length := by decide) : SkuRequest captures :=
  .page [1] ⟨runId, ⟨index, hindex⟩⟩

def start : SkuSync id captures := ⟨Keyed.empty, []⟩

end CapturedTwice

open CapturedTwice in
theorem newest_capture_kept_repeated :
    Along serveSku Timely start [send 0 1, send 0 0, send 1 1, send 1 0, send 1 0, send 1 1] ∧
      Along serveSku KeepsNewest start
        [send 0 1, send 0 0, send 1 1, send 1 0, send 1 0, send 1 1] := by
  have htimely : Along serveSku Timely start
      [send 0 1, send 0 0, send 1 1, send 1 0, send 1 0, send 1 1] := by decide +kernel
  exact ⟨htimely, newest_capture_kept Keyed.empty
    (fun _ hrow => (List.not_mem_nil hrow).elim) _ htimely⟩

open CapturedTwice in
/-- A late page brings old data back, or an item the newest run no longer has; and a run
deactivates an item of its own that a run of the same moment has overwritten. -/
theorem older_capture_returns :
    ¬ Along serveSku KeepsNewest start [send 1 0, send 1 1, send 0 0] ∧
      ¬ Along serveSku KeepsNewest start [send 1 0, send 1 1, send 0 1] ∧
      ¬ Along serveSku KeepsNewest start [send 1 0, send 2 0, send 1 1] := by
  refine ⟨?_, ?_, ?_⟩
  · rintro ⟨-, -, ⟨hback, -⟩, -⟩
    have hbefore : ((run serveSku start [send 1 0, send 1 1]).catalog.lookup (1, "A")).map
        WorkSku.syncedAt = some (some 20) := by decide +kernel
    have hafter : ((run serveSku start [send 1 0, send 1 1, send 0 0]).catalog.lookup (1, "A")).map
        WorkSku.syncedAt = some (some 10) := by decide +kernel
    obtain ⟨old, hold, hcaptured⟩ := Option.map_eq_some_iff.mp hbefore
    obtain ⟨row, captured, hrow, hsynced, hle⟩ := hback (1, "A") old 20 hold hcaptured
    have hten : captured = 10 := by
      have hmap := (congrArg (Option.map WorkSku.syncedAt) hrow).symm.trans hafter
      rw [Option.map_some, hsynced] at hmap
      exact Option.some.inj (Option.some.inj hmap)
    omega
  · rintro ⟨-, -, ⟨-, hconverged, -⟩, -⟩
    have hwhole : ∀ index : Fin (captures 1).pages.length,
        (⟨1, index⟩ : PageOf captures) ∈
          (run serveSku start [send 1 0, send 1 1, send 0 1]).processed := by
      decide +kernel
    have hnewest : ∀ page ∈ (run serveSku start [send 1 0, send 1 1, send 0 1]).processed,
        page.sender.warehouseId = (captures 1).warehouseId → page.syncRunId ≠ 1 →
          page.sender.capturedAt < (captures 1).capturedAt := by decide +kernel
    obtain ⟨hlisted, -⟩ := hconverged 1
      (by rintro ⟨runId, index⟩ rfl; exact hwhole index) hnewest
    have hrow : ∃ row ∈ (run serveSku start
        [send 1 0, send 1 1, send 0 1]).catalog.rows, row.warehouseId = 1 ∧
          row.sourceSystem = .sitegiant ∧ row.isActive = true ∧
          row.itemName = "dropped" := by decide +kernel
    obtain ⟨row, hmem, hplace, hsource, hactive, hname⟩ := hrow
    obtain ⟨⟨runId, index⟩, hrun, item, hitem, hholds⟩ := hlisted row hmem hplace hsource hactive
    obtain rfl : runId = 1 := hrun
    have hother : ∀ index : Fin (captures 1).pages.length,
        ∀ item ∈ PageOf.items (⟨1, index⟩ : PageOf captures),
          item.itemName ≠ "dropped" := by decide +kernel
    exact hother index item hitem (hholds.itemName.symm.trans hname)
  · rintro ⟨-, -, ⟨-, -, hspares⟩, -⟩
    have hactive : ∃ row ∈ (run serveSku start
        [send 1 0, send 2 0]).catalog.lookup (1, "A"), row.isActive = true := by
      decide +kernel
    have hafter : ¬ ∃ row ∈ (run serveSku start
        [send 1 0, send 2 0, send 1 1]).catalog.lookup (1, "A"), row.isActive = true := by
      decide +kernel
    apply hafter
    exact hspares (by decide) ⟨1, ⟨0, by decide⟩⟩ (by decide +kernel) rfl (1, "A")
      (by decide +kernel) (Or.inl hactive)

end SentryWms.WorkControl

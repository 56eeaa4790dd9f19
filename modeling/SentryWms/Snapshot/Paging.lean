import SentryWms.Snapshot.Scan

/-!
# Paging through a snapshot

A client follows the cursor from the first page of a promoted scan until a page has
none.  The cursor names the item and the bin of the last row, which several lots share:
the scan returns every row of the warehouse exactly once if and only if no page ends
between two rows of one item and bin.
-/

namespace SentryWms.Snapshot

open Relational Events

/-- The client of a scan: the token, and what it asks for. -/
structure ScanClient where
  token : SnapshotToken
  warehouseId : ℕ
  limit : PageLimit

/-- Page after page from a cursor, each with the rows arranged as it finds them;
refused requests and missing fuel cut it off. -/
def followCursor (client : ScanClient) (arranged : ℕ → List InventoryRow) :
    ℕ → ℕ → Cursor → List SnapshotScan → Option (List (List InventoryRow))
  | 0, _, _, _ => none
  | fuel + 1, number, cursor, scans =>
      match nextPage (arranged number) client.token client.warehouseId client.limit
          (some cursor) scans with
      | .ok (page, served) =>
          match page.nextCursor with
          | none => some [page.rows]
          | some next =>
              (followCursor client arranged fuel (number + 1) next served).map (page.rows :: ·)
      | .error _ => none

/-- All pages of a scan that the keeper has promoted. -/
def scanPages (client : ScanClient) (arranged : ℕ → List InventoryRow) (fuel : ℕ)
    (scanId : String) (scans : List SnapshotScan) : Option (List (List InventoryRow)) :=
  match firstPage (arranged 0) client.warehouseId client.limit scanId scans with
  | (.ok page, served) =>
      match page.nextCursor with
      | none => some [page.rows]
      | some next =>
          (followCursor client arranged fuel 1 next served).map (page.rows :: ·)
  | (.error _, _) => none

/-- Items and bins of inventory rows exist, and ids are drawn from sequences that
start at 1. -/
structure Stocked (db : Db) : Prop where
  item : ∀ row ∈ db.inventory.rows, (db.items.find? row.itemId).isSome
  bin : ∀ row ∈ db.inventory.rows, (db.bins.find? row.binId).isSome
  itemId_pos : ∀ item ∈ db.items.rows, 0 < item.itemId

/-- The inventory rows of a warehouse. -/
def warehouseRows (db : Db) (warehouseId : ℕ) : List InventoryRow :=
  db.inventory.rows.filter fun row => row.warehouseId = warehouseId

/-- No page of the scan ends between two rows of one item and bin. -/
def EndsCleanly (db : Db) (warehouseId limit : ℕ) : Prop :=
  Keyset.CutsCleanly limit (((warehouseRows db warehouseId).map rowKey).insertionSort (· ≤ ·))

instance (db : Db) (warehouseId limit : ℕ) : Decidable (EndsCleanly db warehouseId limit) := by
  unfold EndsCleanly
  infer_instance

/-- The scan belongs to the client, and pins the state. -/
def Promoted (client : ScanClient) (scanId : String) (db : Db)
    (scans : List SnapshotScan) : Prop :=
  client.warehouseId ∈ client.token.warehouseIds ∧
    ∃ scan, loadScan scans scanId = some scan ∧ scan.scanId = scanId ∧
      scan.status = .active ∧ scan.createdByTokenId = client.token.tokenId ∧
      scan.pinned = some db

variable {rows : List InventoryRow} {warehouseId : ℕ} {last : RowKey} {row : InventoryRow}

section Exactness

variable {client : ScanClient} {arranged : ℕ → List InventoryRow} {scanId : String}
  {db : Db} {scans : List SnapshotScan}

theorem mem_runKeysetQuery {limit : ℕ}
    (hrow : row ∈ runKeysetQuery rows db warehouseId last limit) :
    row.warehouseId = warehouseId := by
  have hjoined := List.of_mem_filter (Keyset.page_subset hrow).1
  exact (of_decide_eq_true hjoined).1

/-- The cursor of a full page is that of the keyset. -/
theorem servePage_full (scan : SnapshotScan) (scans : List SnapshotScan) {limit : PageLimit}
    (hfull : ¬ (runKeysetQuery rows db warehouseId last limit.value).length < limit.value) :
    ∃ itemId binId,
      servePage rows scan db warehouseId last limit scans =
        (⟨scan.snapshotEventId, runKeysetQuery rows db warehouseId last limit.value,
          some ⟨scan.scanId, warehouseId, itemId, binId⟩⟩, scans) ∧
      keyOf warehouseId itemId binId = Keyset.nextAfter rowKey last
        (runKeysetQuery rows db warehouseId last limit.value) := by
  have hne : runKeysetQuery rows db warehouseId last limit.value ≠ [] := by
    intro hnil
    rw [hnil] at hfull
    exact hfull limit.pos
  have hlast := List.getLast?_eq_some_getLast hne
  have hwarehouse := mem_runKeysetQuery (List.getLast_mem hne)
  refine ⟨((runKeysetQuery rows db warehouseId last limit.value).getLast hne).itemId,
    ((runKeysetQuery rows db warehouseId last limit.value).getLast hne).binId, ?_, ?_⟩
  · rw [servePage, if_neg hfull, hlast]
    rfl
  · rw [Keyset.nextAfter, hlast, Option.map_some, Option.getD_some, rowKey, hwarehouse]

/-- Following the cursor is a keyset scan of the pinned rows. -/
theorem followCursor_eq (hpromoted : Promoted client scanId db scans)
    (fuel number itemId binId : ℕ) :
    followCursor client arranged fuel number ⟨scanId, client.warehouseId, itemId, binId⟩ scans =
      Keyset.scan rowKey
        (fun number => (arranged number).filter (joined db client.warehouseId))
        client.limit.value fuel number (keyOf client.warehouseId itemId binId) := by
  obtain ⟨hwarehouse, scan, hload, hid, hactive, howner, hpinned⟩ := hpromoted
  induction fuel generalizing number itemId binId with
  | zero => rfl
  | succ fuel ih =>
      have hpage : nextPage (arranged number) client.token client.warehouseId
          client.limit (some ⟨scanId, client.warehouseId, itemId, binId⟩) scans =
          .ok (servePage (arranged number) scan db client.warehouseId
            (keyOf client.warehouseId itemId binId) client.limit scans) := by
        simp only [nextPage, requireWarehouse, cursorScan, bind_eq_ok, require_eq_ok,
          orThrow_eq_ok, pure_eq_ok]
        exact ⟨(), hwarehouse, _, rfl, (scan, db),
          ⟨(), rfl, scan, hload, (), howner, (), hactive, db, hpinned, rfl⟩, rfl⟩
      rw [followCursor, hpage, Keyset.scan]
      by_cases hshort : (runKeysetQuery (arranged number) db client.warehouseId
          (keyOf client.warehouseId itemId binId) client.limit.value).length <
          client.limit.value
      · rw [servePage, if_pos hshort]
        exact (if_pos hshort).symm
      · obtain ⟨itemId', binId', hserved, hkey⟩ :=
          servePage_full scan scans hshort
        rw [hserved, hid]
        refine Eq.trans ?_ (if_neg hshort).symm
        simp only
        rw [ih, hkey]
        rfl

/-- All pages of a promoted scan are a keyset scan of the warehouse's rows. -/
theorem scanPages_eq (hpromoted : Promoted client scanId db scans) (fuel : ℕ) :
    scanPages client arranged fuel scanId scans =
      Keyset.scan rowKey
        (fun number => (arranged number).filter (joined db client.warehouseId))
        client.limit.value (fuel + 1) 0 (keyOf client.warehouseId 0 0) := by
  have hfollow := fun itemId binId =>
    @followCursor_eq client arranged scanId db scans hpromoted fuel 1 itemId binId
  obtain ⟨hwarehouse, scan, hload, hid, hactive, howner, hpinned⟩ := hpromoted
  have hpromoted? : promoted? scans scanId = some (scan, db) := by
    simp [promoted?, hload, hactive, hpinned]
  rw [scanPages, firstPage, hpromoted?, Keyset.scan]
  by_cases hshort : (runKeysetQuery (arranged 0) db client.warehouseId
      (keyOf client.warehouseId 0 0) client.limit.value).length < client.limit.value
  · simp only [servePage, if_pos hshort]
    exact (if_pos hshort).symm
  · obtain ⟨itemId, binId, hserved, hkey⟩ :=
      servePage_full scan scans hshort
    rw [hid] at hserved
    simp only [hserved]
    rw [hfollow, hkey]
    exact (if_neg hshort).symm

/-- The anchor of the first page comes before every row of the warehouse. -/
theorem anchor_lt (hstocked : Stocked db) (hrow : row ∈ db.inventory.rows) :
    keyOf row.warehouseId 0 0 < rowKey row := by
  obtain ⟨item, hitem⟩ := Option.isSome_iff_exists.mp (hstocked.item row hrow)
  have hpos := hstocked.itemId_pos item (Table.find?_mem hitem)
  rw [Table.find?_key hitem] at hpos
  rw [rowKey, keyOf, keyOf, Prod.Lex.toLex_lt_toLex]
  exact Or.inr ⟨rfl, Prod.Lex.toLex_lt_toLex.mpr (Or.inl hpos)⟩

/-- The rows a scan reads from are those of the warehouse. -/
theorem filter_joined (hstocked : Stocked db) (warehouseId : ℕ) :
    db.inventory.rows.filter (joined db warehouseId) = warehouseRows db warehouseId := by
  apply List.filter_congr
  intro row hrow
  rw [joined]
  simp [hstocked.item row hrow, hstocked.bin row hrow]

theorem beyond_anchor (hstocked : Stocked db) (warehouseId : ℕ) :
    (Keyset.beyond rowKey (warehouseRows db warehouseId) (keyOf warehouseId 0 0)).Perm
      (warehouseRows db warehouseId) := by
  refine (Keyset.beyond_perm _ _).trans ?_
  rw [List.filter_eq_self.mpr]
  intro row hrow
  obtain ⟨hstored, hwarehouse⟩ := List.mem_filter.mp hrow
  exact decide_eq_true (of_decide_eq_true hwarehouse ▸ anchor_lt hstocked hstored)

/-- A promoted scan comes to its end, and its pages hold every row of the warehouse
exactly once if and only if no page ends between two rows of one item and bin. -/
theorem scanPages_exact_iff (hpromoted : Promoted client scanId db scans) (hstocked : Stocked db)
    (harranged : ∀ number, (arranged number).Perm db.inventory.rows) :
    ∃ pages, scanPages client arranged db.inventory.rows.length scanId scans = some pages ∧
      (pages.flatten.Perm (warehouseRows db client.warehouseId) ↔
        EndsCleanly db client.warehouseId client.limit.value) := by
  let anchor := keyOf client.warehouseId 0 0
  have hrows : ∀ number, ((arranged number).filter
      (joined db client.warehouseId)).Perm (warehouseRows db client.warehouseId) := by
    intro number
    rw [← filter_joined hstocked]
    exact (harranged number).filter _
  have hbeyond := beyond_anchor hstocked client.warehouseId
  have hlength : (Keyset.beyond rowKey (warehouseRows db client.warehouseId)
      anchor).length < db.inventory.rows.length + 1 := by
    rw [hbeyond.length_eq]
    exact Nat.lt_succ_of_le (List.length_filter_le _ _)
  have hkeys : Keyset.keysBeyond rowKey (warehouseRows db client.warehouseId) anchor =
      ((warehouseRows db client.warehouseId).map rowKey).insertionSort (· ≤ ·) := by
    rw [Keyset.keysBeyond, List.filter_eq_self.mpr]
    intro key hkey
    obtain ⟨row, hrow, rfl⟩ := List.mem_map.mp hkey
    exact decide_eq_true (Keyset.mem_beyond.mp (hbeyond.mem_iff.mpr hrow)).2
  have hsome : (Keyset.scan rowKey
      (fun number => (arranged number).filter (joined db client.warehouseId))
      client.limit.value (db.inventory.rows.length + 1) 0 anchor).isSome :=
    Keyset.scan_isSome hrows client.limit.pos hlength
  obtain ⟨pages, hpages⟩ := Option.isSome_iff_exists.mp hsome
  have hexact := Keyset.scan_perm_iff hrows client.limit.pos hpages
  rw [hkeys] at hexact
  refine ⟨pages, (scanPages_eq hpromoted _).trans hpages, ?_⟩
  rw [EndsCleanly, ← hexact]
  exact ⟨fun hperm => hperm.trans hbeyond.symm, fun hperm => hperm.trans hbeyond⟩

end Exactness

/-! ## A small shelf -/

namespace SmallShelf

def lot (inventoryId : ℕ) (lotNumber : Option String) : InventoryRow where
  inventoryId := inventoryId
  itemId := 1
  binId := 1
  warehouseId := 1
  quantityOnHand := 5
  lotNumber := lotNumber
  updatedAt := 0

/-- Two lots of one item in one bin. -/
def db : Db :=
  { Db.empty with
    items := Table.empty.insert fun itemId =>
      { itemId := itemId
        sku := "WIDGET"
        itemName := "Widget" }
    bins := Table.empty.insert fun binId =>
      { binId := binId
        warehouseId := 1
        binCode := "A-01"
        binType := .binPickable
        pickSequence := 1 }
    inventory := (Table.empty.insert fun inventoryId => lot inventoryId (some "L1")).insert
      fun inventoryId => lot inventoryId (some "L2") }

/-- A scan of the shelf after its promotion. -/
def scans : List SnapshotScan :=
  promote 0 (CommitLog.empty : Outbox Unit) db "scan-1" [⟨"scan-1", .pending, none, none, 1, 7⟩]

def client (limit : ℕ) (hpos : 1 ≤ limit := by decide)
    (hle : limit ≤ 2000 := by decide) : ScanClient where
  token := ⟨7, [1]⟩
  warehouseId := 1
  limit := ⟨limit, hpos, hle⟩

theorem promoted (limit : ℕ) (hpos : 1 ≤ limit) (hle : limit ≤ 2000) :
    Promoted (client limit hpos hle) "scan-1" db scans :=
  ⟨List.mem_singleton_self 1, _, rfl, rfl, rfl, rfl, rfl⟩

theorem stocked : Stocked db :=
  ⟨by decide, by decide, by decide⟩

end SmallShelf

theorem scanPages_exact_iff_both :
    ∃ pages, scanPages (SmallShelf.client 2) (fun _ => SmallShelf.db.inventory.rows) 2
        "scan-1" SmallShelf.scans = some pages ∧
      pages.flatten.Perm (warehouseRows SmallShelf.db 1) := by
  obtain ⟨pages, hpages, hexact⟩ := @scanPages_exact_iff (SmallShelf.client 2)
    (fun _ => SmallShelf.db.inventory.rows) "scan-1" SmallShelf.db SmallShelf.scans
    (SmallShelf.promoted 2 _ _) SmallShelf.stocked fun _ => List.Perm.refl _
  exact ⟨pages, hpages, hexact.mpr (by decide)⟩

/-- With one row a page the second lot is never returned. -/
theorem scanPages_losesLot :
    scanPages (SmallShelf.client 1) (fun _ => SmallShelf.db.inventory.rows) 2 "scan-1"
        SmallShelf.scans = some [[SmallShelf.lot 1 (some "L1")], []] ∧
      warehouseRows SmallShelf.db 1 =
        [SmallShelf.lot 1 (some "L1"), SmallShelf.lot 2 (some "L2")] := by
  exact ⟨by rfl, by rfl⟩

end SentryWms.Snapshot

import SentryWms.Events.Polling
import SentryWms.Inventory
import Mathlib.Data.Prod.Lex

/-!
# Inventory snapshots

A client that wants all inventory opens a scan.  The snapshot keeper promotes it: in a
repeatable-read transaction that it holds open it reads the greatest visible event id
and exports its snapshot.  The pages of the scan are read from that snapshot, in the
order of warehouse, item and bin, each from the last row of the page before.
-/

namespace SentryWms.Snapshot

open Relational Events

/-! ## Scans -/

inductive ScanStatus
  | pending
  | active
  | done
  | aborted
  | expired
  deriving DecidableEq, Repr

/-- A row of `snapshot_scans`, with the state its exported snapshot sees. -/
structure SnapshotScan where
  scanId : String
  status : ScanStatus
  pinned : Option Db
  snapshotEventId : Option ℕ
  warehouseId : ℕ
  createdByTokenId : ℕ

/-- The payload of a cursor. -/
structure Cursor where
  scanId : String
  warehouseId : ℕ
  itemId : ℕ
  binId : ℕ
  deriving DecidableEq, Repr

/-- A token: its id and the warehouses it may read. -/
structure SnapshotToken where
  tokenId : ℕ
  warehouseIds : List ℕ
  deriving DecidableEq, Repr

structure SnapshotPage where
  snapshotEventId : Option ℕ
  rows : List InventoryRow
  nextCursor : Option Cursor
  deriving DecidableEq, Repr

def loadScan (scans : List SnapshotScan) (scanId : String) : Option SnapshotScan :=
  scans.find? fun scan => scan.scanId = scanId

/-- `UPDATE snapshot_scans ... WHERE scan_id = :sid AND status = :status`. -/
def updateScan (scanId : String) (status : ScanStatus)
    (set : SnapshotScan → SnapshotScan) (scans : List SnapshotScan) :
    List SnapshotScan :=
  scans.map fun scan =>
    if scan.scanId = scanId ∧ scan.status = status then set scan else scan

/-! ## The keyset query -/

/-- What the query orders by. -/
abbrev RowKey := ℕ ×ₗ (ℕ ×ₗ ℕ)

def keyOf (warehouseId itemId binId : ℕ) : RowKey := toLex (warehouseId, toLex (itemId, binId))

def rowKey (row : InventoryRow) : RowKey := keyOf row.warehouseId row.itemId row.binId

/-- A row of the warehouse whose item and bin are found. -/
def joined (db : Db) (warehouseId : ℕ) (row : InventoryRow) : Bool :=
  row.warehouseId = warehouseId ∧ (db.items.find? row.itemId).isSome ∧
    (db.bins.find? row.binId).isSome

/-- `_run_keyset_query`, with the rows arranged as this execution finds them. -/
def runKeysetQuery (arranged : List InventoryRow) (db : Db) (warehouseId : ℕ)
    (last : RowKey) (limit : ℕ) : List InventoryRow :=
  Keyset.page rowKey (arranged.filter (joined db warehouseId)) last limit

/-! ## The keeper -/

/-- `_promote`: the scan is pinned to the state, with the greatest visible event id. -/
def promote {Effect : Type*} (now : ℕ) (outbox : Outbox Effect) (db : Db)
    (scanId : String) (scans : List SnapshotScan) : List SnapshotScan :=
  updateScan scanId .pending
    (fun scan =>
      { scan with
        status := .active
        pinned := some db
        snapshotEventId := some (maxEventId (pastBuffer now) outbox) }) scans

/-! ## The endpoint -/

/-- The token may read the warehouse. -/
def requireWarehouse (token : SnapshotToken) (warehouseId : ℕ) : Except ApiError Unit :=
  require (warehouseId ∈ token.warehouseIds) ⟨"scope_violation", some "warehouse_id", 403⟩

/-- A page of a scan; one that is not full ends the scan. -/
def servePage (arranged : List InventoryRow) (scan : SnapshotScan) (db : Db)
    (warehouseId : ℕ) (last : RowKey) (limit : PageLimit)
    (scans : List SnapshotScan) : SnapshotPage × List SnapshotScan :=
  let rows := runKeysetQuery arranged db warehouseId last limit.value
  if rows.length < limit.value then
    (⟨scan.snapshotEventId, rows, none⟩,
      updateScan scan.scanId .active (fun scan => { scan with status := .done }) scans)
  else
    (⟨scan.snapshotEventId, rows, rows.getLast?.map fun tail =>
      ⟨scan.scanId, warehouseId, tail.itemId, tail.binId⟩⟩, scans)

/-- What `_wait_for_promotion` waits for. -/
def promoted? (scans : List SnapshotScan) (scanId : String) :
    Option (SnapshotScan × Db) := do
  let scan ← loadScan scans scanId
  if scan.status = .active then
    let db ← scan.pinned
    pure (scan, db)
  else none

/-- The first page, once the wait is over: without a promotion the scan is withdrawn. -/
def firstPage (arranged : List InventoryRow) (warehouseId : ℕ) (limit : PageLimit)
    (scanId : String) (scans : List SnapshotScan) :
    Except ApiError SnapshotPage × List SnapshotScan :=
  match promoted? scans scanId with
  | some (scan, db) =>
      let (page, served) := servePage arranged scan db warehouseId
        (keyOf warehouseId 0 0) limit scans
      (.ok page, served)
  | none =>
      (.error ⟨"snapshot_keeper_unavailable", none, 503⟩,
        scans.filter fun scan => scan.scanId ≠ scanId)

/-- The scan of a cursor, and the state it is pinned to. -/
def cursorScan (token : SnapshotToken) (warehouseId : ℕ) (cursor : Cursor)
    (scans : List SnapshotScan) : Except ApiError (SnapshotScan × Db) := do
  require (cursor.warehouseId = warehouseId) ⟨"cursor_scope_violation", none, 403⟩
  let scan ← orThrow (loadScan scans cursor.scanId) ⟨"snapshot_expired", none, 410⟩
  require (scan.createdByTokenId = token.tokenId) ⟨"cursor_scope_violation", none, 403⟩
  require (scan.status = .active) ⟨"snapshot_expired", none, 410⟩
  let db ← orThrow scan.pinned ⟨"snapshot_expired", none, 410⟩
  pure (scan, db)

/-- A later page; a cursor that does not decode is none. -/
def nextPage (arranged : List InventoryRow) (token : SnapshotToken) (warehouseId : ℕ)
    (limit : PageLimit) (cursor : Option Cursor) (scans : List SnapshotScan) :
    Except ApiError (SnapshotPage × List SnapshotScan) := do
  requireWarehouse token warehouseId
  let cursor ← orThrow cursor ⟨"invalid_cursor", none, 400⟩
  let (scan, db) ← cursorScan token warehouseId cursor scans
  pure (servePage arranged scan db warehouseId
    (keyOf cursor.warehouseId cursor.itemId cursor.binId) limit scans)

end SentryWms.Snapshot

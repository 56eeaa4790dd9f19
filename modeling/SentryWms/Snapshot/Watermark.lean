import SentryWms.Snapshot.Paging

/-!
# The event id of a snapshot

A client loads the snapshot and then polls the events after its `snapshot_event_id`.
It misses a change if a transaction that is not in the snapshot has an event at or
below that id.  Ids are drawn before the commit and the id of a snapshot is the
greatest one that is visible, so this happens if and only if a transaction is open at
the promotion that has drawn an id below a visible one and commits later.
-/

namespace SentryWms.Snapshot

open Relational Inventory Events

/-- What a transaction does besides emitting events. -/
abbrev DbWrite := Db → Db

def applyWrites (writes : List DbWrite) (db : Db) : Db :=
  run (fun current write => write current) db writes

/-- The committed state. -/
def dbOf (initial : Db) (outbox : Outbox DbWrite) : Db :=
  applyWrites (outbox.committed.flatMap Transaction.effects) initial

/-- A transaction that is open in the first outbox and committed in the second has an
event below one that is past the buffer. -/
def OpenBelow {Effect : Type*} (now : ℕ) (outbox final : Outbox Effect) : Prop :=
  ∃ hidden ∈ outbox.written, hidden.id ∈ final.entries.map Entry.id ∧
    ∃ event ∈ outbox.entries, pastBuffer now event ∧ hidden.id < event.id

instance {Effect : Type*} (now : ℕ) (outbox final : Outbox Effect) :
    Decidable (OpenBelow now outbox final) := by
  unfold OpenBelow
  infer_instance

/-- An open entry is not a committed one. -/
theorem written_ne_committed {Effect : Type*} {outbox : Outbox Effect}
    {hidden event : EventRow} (hhidden : hidden ∈ outbox.written)
    (hevent : event ∈ outbox.entries) : hidden.id ≠ event.id := by
  have hnodup := outbox.ids_nodup
  rw [List.map_append] at hnodup
  intro hid
  exact (List.disjoint_of_nodup_append hnodup) (List.mem_map_of_mem hhidden)
    (hid ▸ List.mem_map_of_mem hevent)

/-- Transactions committed after a snapshot have their events above its event id if
and only if none of them was open with an id below a visible one. -/
theorem events_above_iff {Effect : Type*} {now : ℕ} {outbox final : Outbox Effect}
    {tail : List (Transaction Events.IntegrationEvent Effect)}
    (htail : final.committed = outbox.committed ++ tail)
    (hunseen : ∀ transaction ∈ tail, ∀ event ∈ transaction.entries, CommitLog.Unseen outbox event) :
    (∀ transaction ∈ tail, ∀ event ∈ transaction.entries,
        maxEventId (pastBuffer now) outbox < event.id) ↔
      ¬ OpenBelow now outbox final := by
  have hcommitted : ∀ event, event ∈ final.entries ↔
      event ∈ outbox.entries ∨ ∃ transaction ∈ tail, event ∈ transaction.entries := by
    intro event
    rw [CommitLog.entries, htail, List.flatMap_append, List.mem_append,
      List.mem_flatMap (l := tail)]
    rfl
  constructor
  · rintro habove ⟨hidden, hhidden, hlater, event, hevent, hpast, hbelow⟩
    obtain ⟨committed, hmem, hid⟩ := List.mem_map.mp hlater
    rcases (hcommitted committed).mp hmem with hold | ⟨transaction, htransaction, hnew⟩
    · exact written_ne_committed hhidden hold hid.symm
    · have hmax := maxEventId_lt.mp (habove transaction htransaction committed hnew)
      have hlt := hmax.2 event hevent hpast
      omega
  · intro hfree transaction htransaction event hevent
    have hfinal := (hcommitted event).mpr (Or.inr ⟨transaction, htransaction, hevent⟩)
    rcases hunseen transaction htransaction event hevent with
      ⟨hidden, hhidden, hid, -⟩ | hdrawn
    · refine maxEventId_lt.mpr ⟨CommitLog.id_pos (CommitLog.mem_all.mpr (Or.inr hfinal)), ?_⟩
      intro visible hvisible hpast
      by_contra hge
      have hne := written_ne_committed hhidden hvisible
      exact hfree ⟨hidden, hhidden, hid ▸ List.mem_map_of_mem hfinal, visible, hvisible,
        hpast, by omega⟩
    · refine maxEventId_lt.mpr ⟨lt_of_lt_of_le outbox.nextId_pos hdrawn, ?_⟩
      intro visible hvisible _
      exact lt_of_lt_of_le (CommitLog.id_lt (CommitLog.mem_all.mpr (Or.inr hvisible))) hdrawn

/-- The keeper promotes a pending scan. -/
theorem loadScan_promote {Effect : Type*} {now : ℕ} {outbox : Outbox Effect} {db : Db}
    {scanId : String} {scans : List SnapshotScan} {scan : SnapshotScan}
    (hload : loadScan scans scanId = some scan) (hpending : scan.status = .pending) :
    loadScan (promote now outbox db scanId scans) scanId =
      some
        { scan with
          status := .active
          pinned := some db
          snapshotEventId := some (maxEventId (pastBuffer now) outbox) } := by
  have hid : scan.scanId = scanId := by simpa using List.find?_some hload
  have hkeep : ∀ stored : SnapshotScan,
      (if stored.scanId = scanId ∧ stored.status = .pending then
        { stored with
          status := .active
          pinned := some db
          snapshotEventId := some (maxEventId (pastBuffer now) outbox) }
        else stored).scanId = stored.scanId := by
    intro stored
    split <;> rfl
  rw [loadScan] at hload ⊢
  rw [promote, updateScan, List.find?_map]
  simp only [Function.comp_def, hkeep, hload, Option.map_some, hid, hpending, and_self, if_true]

/-- A scan is promoted, and transactions go on.  What the snapshot does not see comes
from transactions committed later, applied to what it sees; and all their events are
above the event id of the snapshot if and only if none of them was open at the
promotion with an event below a visible one. -/
theorem snapshot_complete_iff {now : ℕ} {initial : Db} {outbox : Outbox DbWrite}
    {scanId : String} {scans : List SnapshotScan} {scan : SnapshotScan}
    (hload : loadScan scans scanId = some scan) (hpending : scan.status = .pending)
    (steps : List (OutboxStep DbWrite)) :
    let final := run CommitLog.serve outbox steps
    ∃ promoted pinned watermark tail,
      loadScan (promote now outbox (dbOf initial outbox) scanId scans) scanId = some promoted ∧
      promoted.status = .active ∧ promoted.pinned = some pinned ∧
      promoted.snapshotEventId = some watermark ∧
      final.committed = outbox.committed ++ tail ∧
      dbOf initial final = applyWrites (tail.flatMap Transaction.effects) pinned ∧
      ((∀ transaction ∈ tail, ∀ event ∈ transaction.entries, watermark < event.id) ↔
        ¬ OpenBelow now outbox final) := by
  intro final
  obtain ⟨tail, htail, hunseen⟩ := (CommitLog.follows_run outbox steps).committed
  refine ⟨_, dbOf initial outbox, maxEventId (pastBuffer now) outbox, tail,
    loadScan_promote hload hpending, rfl, rfl, rfl, htail, ?_,
    events_above_iff htail hunseen⟩
  rw [dbOf, htail, List.flatMap_append, applyWrites, run_append]
  rfl

/-! ## A small outbox -/

namespace SmallOutbox

def event : Events.IntegrationEvent where
  eventType := "inventory.adjusted"
  eventVersion := 1
  eventTimestamp := 0
  aggregateType := "inventory_adjustment"
  aggregateId := 1
  aggregateExternalId := "a-1"
  warehouseId := 1
  sourceTxnId := "t-1"
  payload := ""

/-- Transaction 1 takes the first lot off the shelf and stays open; transaction 2
commits, and three seconds pass. -/
def opened : List (OutboxStep DbWrite) :=
  [.draw 1 event, .affect 1 (addOnHand 0 (-5) 1), .draw 2 event, .stamp 2, .commit 2, .tick 3000000]

/-- Transaction 1 commits. -/
def closed : List (OutboxStep DbWrite) := [.stamp 1, .commit 1]

def outbox (steps : List (OutboxStep DbWrite)) : Outbox DbWrite :=
  run CommitLog.serve CommitLog.empty steps

def requested : List SnapshotScan := [⟨"scan-1", .pending, none, none, 1, 7⟩]

end SmallOutbox

/-- Promoted after transaction 1 has committed, the snapshot is complete. -/
theorem snapshot_complete_iff_closed :
    ∃ promoted watermark tail,
      loadScan (promote 6000000 (SmallOutbox.outbox (SmallOutbox.opened ++ SmallOutbox.closed))
        (dbOf SmallShelf.db (SmallOutbox.outbox (SmallOutbox.opened ++ SmallOutbox.closed)))
        "scan-1" SmallOutbox.requested) "scan-1" = some promoted ∧
      promoted.snapshotEventId = some watermark ∧
      (run CommitLog.serve (SmallOutbox.outbox (SmallOutbox.opened ++ SmallOutbox.closed))
        [.draw 3 SmallOutbox.event, .stamp 3, .commit 3]).committed =
        (SmallOutbox.outbox (SmallOutbox.opened ++ SmallOutbox.closed)).committed ++ tail ∧
      ∀ transaction ∈ tail, ∀ event ∈ transaction.entries, watermark < event.id := by
  obtain ⟨promoted, -, watermark, tail, hload, -, -, hwatermark, htail, -, hexact⟩ :=
    @snapshot_complete_iff 6000000 SmallShelf.db
      (SmallOutbox.outbox (SmallOutbox.opened ++ SmallOutbox.closed)) "scan-1"
      SmallOutbox.requested _ rfl rfl [.draw 3 SmallOutbox.event, .stamp 3, .commit 3]
  exact ⟨promoted, watermark, tail, hload, hwatermark, htail, hexact.mpr (by decide)⟩

/-- Promoted while transaction 1 is open, the snapshot has the first lot on the shelf
and event id 2, and the event that it was taken off is event 1. -/
theorem snapshot_missesOpen :
    (promote 3000000 (SmallOutbox.outbox SmallOutbox.opened)
      (dbOf SmallShelf.db (SmallOutbox.outbox SmallOutbox.opened)) "scan-1"
      SmallOutbox.requested).map SnapshotScan.snapshotEventId = [some 2] ∧
    (dbOf SmallShelf.db (SmallOutbox.outbox SmallOutbox.opened)).inventory.rows.map
      InventoryRow.quantityOnHand = [5, 5] ∧
    (dbOf SmallShelf.db (SmallOutbox.outbox
        (SmallOutbox.opened ++ SmallOutbox.closed))).inventory.rows.map
      InventoryRow.quantityOnHand = [0, 5] ∧
    (SmallOutbox.outbox (SmallOutbox.opened ++ SmallOutbox.closed)).committed.map
      (fun transaction => transaction.entries.map Entry.id) = [[2], [1]] := by
  decide

end SentryWms.Snapshot

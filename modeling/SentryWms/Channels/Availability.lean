import SentryWms.Inventory
import SentryWms.Relational.Keyed

/-!
# The availability sweep of a channel

A sweep recomputes the sellable quantity of every active item in the scope of a channel
from the inventory, and bumps the version of the stored rows whose number moved.  Rows
of items that are no longer active or in scope are not looked at.
-/

namespace SentryWms.Channels

open Relational Inventory

/-! ## The tables -/

/-- What the sweep reads of the warehouse: the tables, and `items.category`. -/
structure Stock where
  db : Db
  category : ℕ → Option String

/-- `channels.sku_scope`. -/
structure SkuScope where
  skus : Option (List String)
  categories : Option (List String)
  warehouseIds : Option (List ℕ)
  deriving DecidableEq, Repr

abbrev AvailabilityKey := String × ℕ

/-- A row of `channel_availability`. -/
structure AvailabilityRow where
  channelId : String
  itemId : ℕ
  availableQty : ℤ
  currentVersion : ℕ
  lastVersion : ℕ
  attemptCount : ℕ
  nextAttemptAt : Option ℕ
  dlq : Bool
  lastError : Option String
  lastPublishedAt : Option ℕ
  deriving DecidableEq, Repr

def AvailabilityRow.key (row : AvailabilityRow) : AvailabilityKey := (row.channelId, row.itemId)

/-- The table, and the last value drawn from `channel_availability_version_seq`. -/
structure Availability where
  rows : Keyed AvailabilityRow AvailabilityRow.key
  versionSeq : ℕ

/-! ## The sweep -/

/-- `_clean`: an empty dimension is no restriction. -/
def clean {Value : Type*} (vals : Option (List Value)) : Option (List Value) :=
  vals.filter fun vals => !vals.isEmpty

/-- `_coerce_scope`. -/
def coerceScope (skuScope : SkuScope) : SkuScope where
  skus := clean skuScope.skus
  categories := clean skuScope.categories
  warehouseIds := clean skuScope.warehouseIds

/-- `item_clauses`. -/
def itemClauses (stock : Stock) (scope : SkuScope) : List (Item → Bool) :=
  (scope.skus.toList.map fun skus item => skus.contains item.sku) ++
    scope.categories.toList.map fun categories item =>
      (stock.category item.itemId).any categories.contains

/-- `scope_clause`: the item matches one of the dimensions that are set. -/
def inScope (stock : Stock) (scope : SkuScope) (item : Item) : Bool :=
  (itemClauses stock scope).isEmpty || (itemClauses stock scope).any fun clause => clause item

/-- The rows of `pickable_inv`: pickable, and in one of the channel's warehouses. -/
def countsToward (stock : Stock) (scope : SkuScope) (row : InventoryRow) : Bool :=
  inPickableBin stock.db row && scope.warehouseIds.all fun ids => ids.contains row.warehouseId

/-- `SUM(GREATEST(on_hand - allocated, 0))`, zero where there is no row. -/
def pickableQty (stock : Stock) (scope : SkuScope) (itemId : ℕ) : ℤ :=
  ((stock.db.inventory.select fun row =>
    row.itemId = itemId && countsToward stock scope row).map fun row => max row.available 0).sum

/-- The items that the channel publishes. -/
def publishes (stock : Stock) (scope : SkuScope) (item : Item) : Bool :=
  item.isActive && inScope stock scope item

/-- `computed`. -/
def computed (stock : Stock) (scope : SkuScope) (itemIds : Option (List ℕ)) : List (ℕ × ℤ) :=
  (stock.db.items.select fun item =>
    publishes stock scope item && itemIds.all fun ids => ids.contains item.itemId).map
      fun item => (item.itemId, pickableQty stock scope item.itemId)

/-- `changed`. -/
def changed (stock : Stock) (channelId : String) (scope : SkuScope)
    (itemIds : Option (List ℕ)) (availability : Availability) : List (ℕ × ℤ) :=
  (computed stock scope itemIds).filter fun change =>
    (availability.rows.lookup (channelId, change.1)).all fun row => row.availableQty ≠ change.2

/-- The row that is inserted. -/
def newRow (channelId : String) (change : ℕ × ℤ) (version : ℕ) : AvailabilityRow where
  channelId := channelId
  itemId := change.1
  availableQty := change.2
  currentVersion := version
  lastVersion := 0
  attemptCount := 0
  nextAttemptAt := none
  dlq := false
  lastError := none
  lastPublishedAt := none

/-- `DO UPDATE`. -/
def AvailabilityRow.bump (qty : ℤ) (version : ℕ) (row : AvailabilityRow) : AvailabilityRow :=
  { row with
    availableQty := qty
    currentVersion := version
    attemptCount := 0
    nextAttemptAt := none
    dlq := false
    lastError := none }

/-- The upsert of one changed row; a conflict draws a second version. -/
def upsertChange (channelId : String) (availability : Availability) (change : ℕ × ℤ) :
    Availability where
  rows := availability.rows.upsert (newRow channelId change (availability.versionSeq + 1))
    (AvailabilityRow.bump change.2 (availability.versionSeq + 2)) fun _ hkey => hkey
  versionSeq :=
    if (availability.rows.lookup (channelId, change.1)).isSome then availability.versionSeq + 2
    else availability.versionSeq + 1

/-- `recompute_channel`; the count is the number of rows it has written. -/
def recomputeChannel (stock : Stock) (channelId : String) (skuScope : SkuScope)
    (itemIds : Option (List ℕ)) (availability : Availability) : Availability × ℕ :=
  let changes := changed stock channelId (coerceScope skuScope) itemIds availability
  (run (upsertChange channelId) availability changes, changes.length)

/-! ## The rows that a sweep writes -/

variable {channelId : String} {availability : Availability}

theorem lookup_upsertChange (availability : Availability) (change : ℕ × ℤ) (key : AvailabilityKey) :
    (upsertChange channelId availability change).rows.lookup key =
      if key = (channelId, change.1) then
        some ((availability.rows.lookup key).elim
          (newRow channelId change (availability.versionSeq + 1))
          (AvailabilityRow.bump change.2 (availability.versionSeq + 2)))
      else availability.rows.lookup key :=
  Keyed.lookup_upsert availability.rows (newRow channelId change (availability.versionSeq + 1))
    (AvailabilityRow.bump change.2 (availability.versionSeq + 2)) (fun _ hkey => hkey) key

theorem versionSeq_upsertChange (availability : Availability) (change : ℕ × ℤ) :
    availability.versionSeq ≤ (upsertChange channelId availability change).versionSeq := by
  rw [upsertChange]
  dsimp only
  split
  · exact Nat.le_add_right _ _
  · exact Nat.le_add_right _ _

theorem lookup_upserts_other {changes : List (ℕ × ℤ)} {key : AvailabilityKey}
    (hother : ∀ change ∈ changes, key ≠ (channelId, change.1)) :
    (run (upsertChange channelId) availability changes).rows.lookup key =
      availability.rows.lookup key := by
  induction changes generalizing availability with
  | nil => rfl
  | cons change rest ih =>
      have hrest : (run (upsertChange channelId) (upsertChange channelId availability change)
          rest).rows.lookup key = _ :=
        ih fun later hlater => hother later (List.mem_cons_of_mem _ hlater)
      have hfirst : (upsertChange channelId availability change).rows.lookup key =
          availability.rows.lookup key := by
        rw [lookup_upsertChange, if_neg (hother change List.mem_cons_self)]
      exact hrest.trans hfirst

/-- What a sweep leaves of a row it writes: the number, a version above all drawn before,
and no trace of failed attempts. -/
structure Bumped (drawn : ℕ) (qty : ℤ) (old? : Option AvailabilityRow)
    (row : AvailabilityRow) : Prop where
  availableQty : row.availableQty = qty
  currentVersion : drawn < row.currentVersion
  lastVersion : row.lastVersion = old?.elim 0 AvailabilityRow.lastVersion
  nextAttemptAt : row.nextAttemptAt = none
  dlq : row.dlq = false

theorem bumped_upsertChange (channelId : String) (availability : Availability) (change : ℕ × ℤ) :
    ∃ row, (upsertChange channelId availability change).rows.lookup (channelId, change.1) =
        some row ∧
      Bumped availability.versionSeq change.2
        (availability.rows.lookup (channelId, change.1)) row ∧
      row.currentVersion ≤ (upsertChange channelId availability change).versionSeq := by
  rw [lookup_upsertChange, if_pos rfl]
  refine ⟨_, rfl, ?_⟩
  have hseq : (upsertChange channelId availability change).versionSeq =
      if (availability.rows.lookup (channelId, change.1)).isSome then
        availability.versionSeq + 2
      else availability.versionSeq + 1 := rfl
  rw [hseq]
  cases availability.rows.lookup (channelId, change.1) with
  | none => exact ⟨⟨rfl, Nat.lt_succ_self _, rfl, rfl, rfl⟩, le_rfl⟩
  | some old =>
      exact ⟨⟨rfl, Nat.lt_add_of_pos_right (by decide), rfl, rfl, rfl⟩, le_rfl⟩

theorem versionSeq_upserts (changes : List (ℕ × ℤ)) (availability : Availability) :
    availability.versionSeq ≤
      (run (upsertChange channelId) availability changes).versionSeq := by
  induction changes generalizing availability with
  | nil => exact le_rfl
  | cons change rest ih =>
      have hrest := ih (upsertChange channelId availability change)
      exact (versionSeq_upsertChange availability change).trans hrest

theorem bumped_upserts (channelId : String) (availability : Availability)
    {changes : List (ℕ × ℤ)} (hdistinct : (changes.map Prod.fst).Nodup)
    {change : ℕ × ℤ} (hmem : change ∈ changes) :
    ∃ row, (run (upsertChange channelId) availability changes).rows.lookup
        (channelId, change.1) = some row ∧
      Bumped availability.versionSeq change.2
        (availability.rows.lookup (channelId, change.1)) row ∧
      row.currentVersion ≤ (run (upsertChange channelId) availability changes).versionSeq := by
  induction changes generalizing availability with
  | nil => cases hmem
  | cons first rest ih =>
      rw [List.map_cons, List.nodup_cons] at hdistinct
      have hrun : run (upsertChange channelId) availability (first :: rest) =
          run (upsertChange channelId) (upsertChange channelId availability first) rest := rfl
      rw [hrun]
      cases List.mem_cons.mp hmem with
      | inl hfirst =>
          subst hfirst
          obtain ⟨row, hlookup, hbumped, hdrawn⟩ :=
            bumped_upsertChange channelId availability change
          refine ⟨row, ?_, hbumped, hdrawn.trans (versionSeq_upserts rest _)⟩
          rw [lookup_upserts_other, hlookup]
          intro later hlater hsame
          have hid : change.1 = later.1 := (Prod.mk.inj hsame).2
          exact hdistinct.1 (hid ▸ List.mem_map_of_mem hlater)
      | inr hlater =>
          obtain ⟨row, hlookup, hbumped, hdrawn⟩ := ih _ hdistinct.2 hlater
          have hother : (channelId, change.1) ≠ (channelId, first.1) := by
            intro hsame
            have hid : change.1 = first.1 := (Prod.mk.inj hsame).2
            exact hdistinct.1 (hid ▸ List.mem_map_of_mem hlater)
          rw [lookup_upsertChange, if_neg hother] at hbumped
          refine ⟨row, hlookup, ⟨hbumped.availableQty, ?_, hbumped.lastVersion,
            hbumped.nextAttemptAt, hbumped.dlq⟩, hdrawn⟩
          exact (versionSeq_upsertChange availability first).trans_lt hbumped.currentVersion

end SentryWms.Channels

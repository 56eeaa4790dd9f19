import SentryWms.Channels.Availability

/-!
# What a sweep makes of a channel

The number of an item on a channel is its sellable quantity while it is active and in
scope, and zero otherwise.  A full sweep makes every row of the channel show that number
exactly if the rows it does not look at show zero already; a second sweep has nothing to
do, and a sweep of some items does their part of the full one.
-/

namespace SentryWms.Channels

open Relational

/-! ## The numbers a sweep computes -/

/-- The channel publishes the item. -/
def published (stock : Stock) (scope : SkuScope) (itemId : ℕ) : Bool :=
  (stock.db.items.find? itemId).any (publishes stock scope)

/-- The sellable quantity of an item on a channel. -/
def truthfulQty (stock : Stock) (scope : SkuScope) (itemId : ℕ) : ℤ :=
  if published stock scope itemId then pickableQty stock scope itemId else 0

variable {stock : Stock} {channelId : String} {scope : SkuScope} {itemIds : Option (List ℕ)}
  {availability : Availability}

variable {change : ℕ × ℤ} {key : AvailabilityKey}

theorem mem_computed :
    change ∈ computed stock scope itemIds ↔
      published stock scope change.1 = true ∧
        itemIds.all (fun ids => ids.contains change.1) = true ∧
        change.2 = pickableQty stock scope change.1 := by
  rw [computed, List.mem_map]
  constructor
  · rintro ⟨item, hitem, rfl⟩
    obtain ⟨hmem, htest⟩ := List.mem_filter.mp hitem
    obtain ⟨hpublishes, hasked⟩ := Bool.and_eq_true_iff.mp htest
    refine ⟨?_, hasked, rfl⟩
    rw [published, Table.find?_eq_some_iff.mpr ⟨hmem, rfl⟩]
    exact hpublishes
  · rintro ⟨hpublished, hasked, hqty⟩
    obtain ⟨item, hitem, hpublishes⟩ := (Option.any_eq_true _ _).mp hpublished
    obtain ⟨hmem, hid⟩ := Table.find?_eq_some_iff.mp hitem
    refine ⟨item, List.mem_filter.mpr ⟨hmem, ?_⟩, ?_⟩
    · rw [hid, hpublishes, hasked]
      rfl
    · rw [hid, ← hqty]

theorem computed_nodup : ((computed stock scope itemIds).map Prod.fst).Nodup := by
  rw [computed, List.map_map]
  exact (List.filter_sublist.map _).nodup stock.db.items.keys_nodup

theorem changed_nodup : ((changed stock channelId scope itemIds availability).map Prod.fst).Nodup :=
  (List.filter_sublist.map _).nodup computed_nodup

/-- A published item that was asked for changes unless its number is stored already. -/
theorem mem_changed :
    change ∈ changed stock channelId scope itemIds availability ↔
      change ∈ computed stock scope itemIds ∧
        ∀ row, availability.rows.lookup (channelId, change.1) = some row →
          row.availableQty ≠ change.2 := by
  rw [changed, List.mem_filter, Option.all_eq_true]
  simp only [decide_eq_true_eq]

/-- The changes of a sweep of some items are those of the full sweep among them. -/
theorem mem_changed_some {ids : List ℕ} :
    change ∈ changed stock channelId scope (some ids) availability ↔
      change.1 ∈ ids ∧ change ∈ changed stock channelId scope none availability := by
  rw [mem_changed, mem_changed, mem_computed, mem_computed, Option.all_some, List.contains_iff_mem]
  constructor
  · rintro ⟨⟨hpublished, hasked, hqty⟩, hmoved⟩
    exact ⟨hasked, ⟨hpublished, rfl, hqty⟩, hmoved⟩
  · rintro ⟨hasked, ⟨hpublished, -, hqty⟩, hmoved⟩
    exact ⟨⟨hpublished, hasked, hqty⟩, hmoved⟩

/-! ## The rows after a sweep -/

/-- The sweep has written the row under the key. -/
def Rewrites (before after : Availability) (key : AvailabilityKey) : Prop :=
  after.rows.lookup key ≠ before.rows.lookup key

/-- The number stored under a key. -/
def storedQty (availability : Availability) (key : AvailabilityKey) : Option ℤ :=
  (availability.rows.lookup key).map AvailabilityRow.availableQty

variable {skuScope : SkuScope}

theorem storedQty_of_changed
    (hchange : change ∈ changed stock channelId (coerceScope skuScope) itemIds availability) :
    storedQty (recomputeChannel stock channelId skuScope itemIds availability).1
      (channelId, change.1) = some change.2 := by
  obtain ⟨row, hlookup, hbumped, -⟩ := bumped_upserts channelId availability changed_nodup hchange
  have hafter : (recomputeChannel stock channelId skuScope itemIds availability).1.rows.lookup
      (channelId, change.1) = some row := hlookup
  rw [storedQty, hafter, Option.map_some, hbumped.availableQty]

theorem lookup_of_not_changed
    (hother : ∀ change ∈ changed stock channelId (coerceScope skuScope) itemIds availability,
      key ≠ (channelId, change.1)) :
    (recomputeChannel stock channelId skuScope itemIds availability).1.rows.lookup key =
      availability.rows.lookup key :=
  lookup_upserts_other hother

theorem storedQty_ne_of_changed
    (hchange : change ∈ changed stock channelId scope itemIds availability) :
    storedQty availability (channelId, change.1) ≠ some change.2 := by
  intro hstored
  obtain ⟨row, hlookup, hqty⟩ := Option.map_eq_some_iff.mp hstored
  exact (mem_changed.mp hchange).2 row hlookup hqty

/-- The rows that a sweep writes are those of its changes. -/
theorem rewrites_iff :
    Rewrites availability (recomputeChannel stock channelId skuScope itemIds availability).1 key ↔
      ∃ change ∈ changed stock channelId (coerceScope skuScope) itemIds availability,
        key = (channelId, change.1) := by
  constructor
  · intro hrewrites
    by_contra hnone
    apply hrewrites
    apply lookup_of_not_changed
    intro change hchange hkey
    exact hnone ⟨change, hchange, hkey⟩
  · rintro ⟨change, hchange, rfl⟩ hsame
    have hafter := storedQty_of_changed hchange
    rw [storedQty, hsame] at hafter
    exact storedQty_ne_of_changed hchange hafter

/-- After a full sweep every published item shows its sellable quantity. -/
theorem storedQty_of_published {itemId : ℕ}
    (hpublished : published stock (coerceScope skuScope) itemId = true) :
    storedQty (recomputeChannel stock channelId skuScope none availability).1
      (channelId, itemId) = some (pickableQty stock (coerceScope skuScope) itemId) := by
  have hcomputed : (itemId, pickableQty stock (coerceScope skuScope) itemId) ∈
      computed stock (coerceScope skuScope) none := mem_computed.mpr ⟨hpublished, rfl, rfl⟩
  by_cases hchange : (itemId, pickableQty stock (coerceScope skuScope) itemId) ∈
      changed stock channelId (coerceScope skuScope) none availability
  · exact storedQty_of_changed hchange
  · have hsame : (recomputeChannel stock channelId skuScope none availability).1.rows.lookup
        (channelId, itemId) = availability.rows.lookup (channelId, itemId) := by
      apply lookup_of_not_changed
      rintro change hother hkey
      have hid : itemId = change.1 := (Prod.mk.inj hkey).2
      obtain ⟨-, -, hqty⟩ := mem_computed.mp (mem_changed.mp hother).1
      rw [← hid] at hqty
      have hchanged : change = (itemId, pickableQty stock (coerceScope skuScope) itemId) :=
        Prod.ext hid.symm hqty
      exact hchange (hchanged ▸ hother)
    rw [storedQty, hsame]
    by_contra hmoved
    apply hchange
    refine mem_changed.mpr ⟨hcomputed, ?_⟩
    intro row hlookup hqty
    apply hmoved
    rw [hlookup, Option.map_some, hqty]

/-- A sweep leaves the rows of the items it does not publish. -/
theorem lookup_of_unpublished {itemId : ℕ}
    (hunpublished : published stock (coerceScope skuScope) itemId = false) :
    (recomputeChannel stock channelId skuScope itemIds availability).1.rows.lookup
      (channelId, itemId) = availability.rows.lookup (channelId, itemId) := by
  apply lookup_of_not_changed
  rintro change hchange hkey
  have hid : itemId = change.1 := (Prod.mk.inj hkey).2
  obtain ⟨hpublished, -, -⟩ := mem_computed.mp (mem_changed.mp hchange).1
  rw [← hid, hunpublished] at hpublished
  cases hpublished

/-! ## A full sweep -/

/-- Every row of the channel shows the item's number. -/
def Truthful (stock : Stock) (channelId : String) (skuScope : SkuScope)
    (availability : Availability) : Prop :=
  ∀ row ∈ availability.rows.rows, row.channelId = channelId →
    row.availableQty = truthfulQty stock (coerceScope skuScope) row.itemId

/-- What a sweep of the channel is for: the rows are truthful after a full one, a second
one changes nothing, and one of some items changes their rows as the full one does. -/
structure Reconciles (stock : Stock) (channelId : String) (skuScope : SkuScope)
    (availability : Availability) : Prop where
  truthful : Truthful stock channelId skuScope
    (recomputeChannel stock channelId skuScope none availability).1
  settled : recomputeChannel stock channelId skuScope none
      (recomputeChannel stock channelId skuScope none availability).1 =
    ((recomputeChannel stock channelId skuScope none availability).1, 0)
  restricted : ∀ ids key,
    Rewrites availability
        (recomputeChannel stock channelId skuScope (some ids) availability).1 key ↔
      key.2 ∈ ids ∧ Rewrites availability
        (recomputeChannel stock channelId skuScope none availability).1 key
  agrees : ∀ ids key, key.2 ∈ ids →
    storedQty (recomputeChannel stock channelId skuScope (some ids) availability).1 key =
      storedQty (recomputeChannel stock channelId skuScope none availability).1 key

theorem restricted_sweep (ids : List ℕ) (key : AvailabilityKey) :
    Rewrites availability
        (recomputeChannel stock channelId skuScope (some ids) availability).1 key ↔
      key.2 ∈ ids ∧ Rewrites availability
        (recomputeChannel stock channelId skuScope none availability).1 key := by
  rw [rewrites_iff, rewrites_iff]
  constructor
  · rintro ⟨change, hchange, rfl⟩
    obtain ⟨hasked, hfull⟩ := mem_changed_some.mp hchange
    exact ⟨hasked, change, hfull, rfl⟩
  · rintro ⟨hasked, change, hfull, rfl⟩
    exact ⟨change, mem_changed_some.mpr ⟨hasked, hfull⟩, rfl⟩

theorem restricted_agrees {ids : List ℕ} (hasked : key.2 ∈ ids) :
    storedQty (recomputeChannel stock channelId skuScope (some ids) availability).1 key =
      storedQty (recomputeChannel stock channelId skuScope none availability).1 key := by
  by_cases hrewrites : Rewrites availability
      (recomputeChannel stock channelId skuScope none availability).1 key
  · obtain ⟨change, hfull, rfl⟩ := rewrites_iff.mp hrewrites
    have hsome := mem_changed_some.mpr ⟨hasked, hfull⟩
    rw [storedQty_of_changed hsome, storedQty_of_changed hfull]
  · have hnone : ¬ Rewrites availability
        (recomputeChannel stock channelId skuScope (some ids) availability).1 key :=
      fun hsome => hrewrites ((restricted_sweep ids key).mp hsome).2
    rw [Rewrites, not_not] at hrewrites hnone
    rw [storedQty, storedQty, hnone, hrewrites]

theorem settled_sweep :
    recomputeChannel stock channelId skuScope none
        (recomputeChannel stock channelId skuScope none availability).1 =
      ((recomputeChannel stock channelId skuScope none availability).1, 0) := by
  have hnone : changed stock channelId (coerceScope skuScope) none
      (recomputeChannel stock channelId skuScope none availability).1 = [] := by
    apply List.eq_nil_iff_forall_not_mem.mpr
    intro change hchange
    obtain ⟨hpublished, -, hqty⟩ := mem_computed.mp (mem_changed.mp hchange).1
    apply storedQty_ne_of_changed hchange
    rw [storedQty_of_published hpublished, hqty]
  rw [recomputeChannel, hnone]
  rfl

/-- A full sweep reconciles a channel exactly if the rows of the items that are not
active or not in scope show zero before it. -/
theorem sweep_reconciles_iff (stock : Stock) (channelId : String) (skuScope : SkuScope)
    (availability : Availability) :
    Reconciles stock channelId skuScope availability ↔
      ∀ row ∈ availability.rows.rows, row.channelId = channelId →
        published stock (coerceScope skuScope) row.itemId = false → row.availableQty = 0 := by
  constructor
  · intro hreconciles row hrow hchannel hunpublished
    have hlookup : availability.rows.lookup (channelId, row.itemId) = some row :=
      Keyed.lookup_eq_some_iff.mpr ⟨hrow, Prod.ext hchannel rfl⟩
    have hafter : (recomputeChannel stock channelId skuScope none availability).1.rows.lookup
        (channelId, row.itemId) = some row := by
      rw [lookup_of_unpublished hunpublished, hlookup]
    have hmem := (Keyed.lookup_eq_some_iff.mp hafter).1
    rw [hreconciles.truthful row hmem hchannel, truthfulQty, hunpublished]
    rfl
  · intro hzero
    refine ⟨?_, settled_sweep, restricted_sweep, fun ids key => restricted_agrees⟩
    intro row hrow hchannel
    have hlookup : (recomputeChannel stock channelId skuScope none availability).1.rows.lookup
        (channelId, row.itemId) = some row :=
      Keyed.lookup_eq_some_iff.mpr ⟨hrow, Prod.ext hchannel rfl⟩
    rw [truthfulQty]
    cases hpublished : published stock (coerceScope skuScope) row.itemId with
    | true =>
        have hstored : storedQty
            (recomputeChannel stock channelId skuScope none availability).1
              (channelId, row.itemId) = _ := storedQty_of_published hpublished
        rw [storedQty, hlookup] at hstored
        exact Option.some.inj hstored
    | false =>
        rw [lookup_of_unpublished hpublished] at hlookup
        obtain ⟨hmem, -⟩ := Keyed.lookup_eq_some_iff.mp hlookup
        exact hzero row hmem hchannel hpublished

/-! ## A deactivated item -/

/-- An item that was deactivated after the last sweep. -/
def retiredStock : Stock where
  db := { Db.empty with items := Table.empty.insert fun itemId =>
    { itemId := itemId, sku := "WIDGET", itemName := "Widget", upc := none
      barcodeAliases := [], isActive := false } }
  category := fun _ => none

def retiredRow : AvailabilityRow := newRow "amazon-fba" (1, 3) 1

/-- Its row still shows the three units of that sweep. -/
def retiredAvailability : Availability where
  rows := Keyed.empty.insertNew retiredRow rfl
  versionSeq := 1

theorem sweep_keeps_stale_row :
    ¬ Reconciles retiredStock "amazon-fba" ⟨none, none, none⟩ retiredAvailability := by
  intro hreconciles
  have hqty : (3 : ℤ) = truthfulQty retiredStock ⟨none, none, none⟩ 1 :=
    hreconciles.truthful retiredRow List.mem_cons_self rfl
  revert hqty
  decide

end SentryWms.Channels

import SentryWms.Channels.Publishing
import SentryWms.Channels.Sweep

/-!
# What reaches the sink

No published version runs ahead of the current one, a row whose current version is
published shows what the sink has accepted last, and a delay is the fault of the current
version.  That holds in every run in which no batch fails after a sweep has bumped one of
its rows, and no sink is handed an old number of a row whose current one it has.
-/

namespace SentryWms.Channels

open Relational Inventory

/-! ## The rows that are marked -/

theorem claimOf_cons_self (channelId : String) (claimed : ClaimedRow) (rest : List ClaimedRow) :
    claimOf channelId (claimed :: rest) (channelId, claimed.itemId) = some claimed := by
  simp [claimOf]

variable {channelId : String} {claimed : ClaimedRow} {key : AvailabilityKey}
  {claims : List ClaimedRow} {set : ClaimedRow → AvailabilityRow → AvailabilityRow}
  {availability : Availability} {now : ℕ}

theorem claimOf_cons_of_ne {rest : List ClaimedRow} (hother : key ≠ (channelId, claimed.itemId)) :
    claimOf channelId (claimed :: rest) key = claimOf channelId rest key := by
  simp [claimOf, hother]

theorem claimOf_eq_some (hfound : claimOf channelId claims key = some claimed) :
    claimed ∈ claims ∧ key = (channelId, claimed.itemId) := by
  rw [claimOf] at hfound
  exact ⟨List.mem_of_find?_eq_some hfound, by simpa using List.find?_some hfound⟩

/-- The claims of one cycle are for different items. -/
theorem claimOf_of_mem (hdistinct : (claims.map ClaimedRow.itemId).Nodup)
    (hmem : claimed ∈ claims) :
    claimOf channelId claims (channelId, claimed.itemId) = some claimed := by
  cases hfound : claimOf channelId claims (channelId, claimed.itemId) with
  | none =>
      have hnone := List.find?_eq_none.mp hfound claimed hmem
      simp at hnone
  | some other =>
      obtain ⟨hother, hkey⟩ := claimOf_eq_some hfound
      have hid : claimed.itemId = other.itemId := (Prod.mk.inj hkey).2
      rw [List.inj_on_of_nodup_map hdistinct hother hmem hid.symm]

variable {rows : Keyed AvailabilityRow AvailabilityRow.key} {cycle : Cycle}

theorem lookup_markRows {hset : ∀ claimed row, (set claimed row).key = row.key}
    (hdistinct : (claims.map ClaimedRow.itemId).Nodup) (key : AvailabilityKey) :
    (markRows channelId set hset rows claims).lookup key =
      (rows.lookup key).map fun row =>
        (claimOf channelId claims key).elim row fun claimed => set claimed row := by
  induction claims generalizing rows with
  | nil =>
      change rows.lookup key = _
      cases rows.lookup key with
      | none | some => rfl
  | cons claimed rest ih =>
      rw [List.map_cons, List.nodup_cons] at hdistinct
      have hrun : markRows channelId set hset rows (claimed :: rest) =
          markRows channelId set hset (rows.modify
            (fun row => row.key = (channelId, claimed.itemId)) (set claimed) (hset claimed))
            rest := rfl
      rw [hrun, ih hdistinct.2, Keyed.lookup_modify, Option.map_map]
      cases hlookup : rows.lookup key with
      | none => rfl
      | some row =>
          have hkey : row.key = key := Keyed.key_of_lookup hlookup
          rw [Option.map_some, Option.map_some, Function.comp_apply, hkey]
          by_cases hown : key = (channelId, claimed.itemId)
          · have hrest : claimOf channelId rest key = none := by
              rw [claimOf, List.find?_eq_none]
              intro later hlater hsame
              have hid : claimed.itemId = later.itemId :=
                (Prod.mk.inj (hown.symm.trans (of_decide_eq_true hsame))).2
              exact hdistinct.1 (hid ▸ List.mem_map_of_mem hlater)
            rw [hrest, hown, claimOf_cons_self, if_pos (decide_eq_true rfl)]
            rfl
          · rw [claimOf_cons_of_ne hown, if_neg (by simpa using hown)]

/-- A sweep leaves a row, or bumps it above every version drawn before. -/
theorem recompute_cases (stock : Stock) (channelId : String) (skuScope : SkuScope)
    (itemIds : Option (List ℕ)) (availability : Availability) (key : AvailabilityKey) :
    (recomputeChannel stock channelId skuScope itemIds availability).1.rows.lookup key =
        availability.rows.lookup key ∨
      ∃ qty row,
        (recomputeChannel stock channelId skuScope itemIds availability).1.rows.lookup key =
          some row ∧
        Bumped availability.versionSeq qty (availability.rows.lookup key) row ∧
        row.currentVersion ≤
          (recomputeChannel stock channelId skuScope itemIds availability).1.versionSeq := by
  by_cases hrewrites : Rewrites availability
      (recomputeChannel stock channelId skuScope itemIds availability).1 key
  · obtain ⟨change, hchange, rfl⟩ := rewrites_iff.mp hrewrites
    obtain ⟨row, hlookup, hbumped, hdrawn⟩ :=
      bumped_upserts channelId availability changed_nodup hchange
    exact Or.inr ⟨change.2, row, hlookup, hbumped, hdrawn⟩
  · exact Or.inl (not_not.mp hrewrites)

/-! ## What a publisher promises -/

/-- The promises of the publisher about every row. -/
structure Delivers {Ticket : Type*} (world : PublishWorld Ticket) : Prop where
  ordered : ∀ key row, world.availability.rows.lookup key = some row →
    row.lastVersion ≤ row.currentVersion
  delivered : ∀ key row, world.availability.rows.lookup key = some row →
    row.lastVersion = row.currentVersion → world.sink key = some row.availableQty
  delayed : ∀ key row, world.availability.rows.lookup key = some row →
    (row.dlq = true ∨ row.nextAttemptAt ≠ none) → world.blamed key = some row.currentVersion

/-- The batch of a cycle, from its claim to its commit. -/
def Cycle.batch : Cycle → Option (String × List ClaimedRow)
  | .idle => none
  | .claimed channelId _ claims => some (channelId, claims)
  | .accepted channelId _ claims => some (channelId, claims)
  | .failed channelId _ claims _ => some (channelId, claims)

/-- The batch that the sink has accepted and the table does not show yet. -/
def Cycle.unrecorded : Cycle → Option (String × List ClaimedRow)
  | .accepted channelId _ claims => some (channelId, claims)
  | _ => none

theorem Cycle.batch_of_unrecorded {batch : String × List ClaimedRow}
    (hunrecorded : cycle.unrecorded = some batch) : cycle.batch = some batch := by
  cases cycle with
  | accepted channelId now claims => exact hunrecorded
  | idle | claimed | failed => cases hunrecorded

/-- The claimed number is the stored one as long as its version is. -/
def ClaimHolds (availability : Availability) (channelId : String)
    (claimed : ClaimedRow) : Prop :=
  ∃ row, availability.rows.lookup (channelId, claimed.itemId) = some row ∧
    claimed.currentVersion ≤ row.currentVersion ∧
    (claimed.currentVersion = row.currentVersion → claimed.availableQty = row.availableQty)

/-- Every row stays, and its number moves only with its version. -/
def Advances (before after : Availability) : Prop :=
  ∀ key row, before.rows.lookup key = some row →
    ∃ next, after.rows.lookup key = some next ∧ row.currentVersion ≤ next.currentVersion ∧
      (row.currentVersion = next.currentVersion → row.availableQty = next.availableQty)

theorem ClaimHolds.advances {before after : Availability}
    (hholds : ClaimHolds before channelId claimed) (hadvances : Advances before after) :
    ClaimHolds after channelId claimed := by
  obtain ⟨row, hlookup, hle, hsame⟩ := hholds
  obtain ⟨next, hnext, hmoved, hkept⟩ := hadvances _ row hlookup
  refine ⟨next, hnext, hle.trans hmoved, ?_⟩
  intro hversion
  have hrow : row.currentVersion = next.currentVersion := le_antisymm hmoved (hversion ▸ hle)
  exact (hsame (hversion.trans hrow.symm)).trans (hkept hrow)

variable {Ticket : Type*}

/-- The promises, and what the open cycles know of the rows they have claimed. -/
structure Tracks (world : PublishWorld Ticket) : Prop where
  delivers : Delivers world
  drawn : ∀ key row, world.availability.rows.lookup key = some row →
    row.currentVersion ≤ world.availability.versionSeq
  claims : ∀ ticket channelId claims,
    (world.cycles ticket).batch = some (channelId, claims) →
      (claims.map ClaimedRow.itemId).Nodup ∧
        ∀ claimed ∈ claims, ClaimHolds world.availability channelId claimed
  accepted : ∀ ticket channelId claims,
    (world.cycles ticket).unrecorded = some (channelId, claims) →
      ∀ claimed ∈ claims, ∀ row,
        world.availability.rows.lookup (channelId, claimed.itemId) = some row →
          claimed.currentVersion = row.currentVersion →
            world.sink (channelId, claimed.itemId) = some claimed.availableQty

theorem tracks_start (clock : ℕ) : Tracks (PublishWorld.start clock : PublishWorld Ticket) where
  delivers := ⟨fun _ _ hlookup => (by cases hlookup), fun _ _ hlookup => (by cases hlookup),
    fun _ _ hlookup => (by cases hlookup)⟩
  drawn := fun _ _ hlookup => by cases hlookup
  claims := fun _ _ _ hbatch => by cases hbatch
  accepted := fun _ _ _ hbatch => by cases hbatch

/-- A change that advances the rows keeps what the cycles know, and what the sink has
accepted of their numbers. -/
theorem Tracks.advances {world next : PublishWorld Ticket} (htracks : Tracks world)
    (hdelivers : Delivers next)
    (hdrawn : ∀ key row, next.availability.rows.lookup key = some row →
      row.currentVersion ≤ next.availability.versionSeq)
    (hadvances : Advances world.availability next.availability)
    (hsink : next.sink = world.sink) (hcycles : next.cycles = world.cycles) :
    Tracks next where
  delivers := hdelivers
  drawn := hdrawn
  claims := by
    intro ticket channelId claims hbatch
    rw [hcycles] at hbatch
    obtain ⟨hdistinct, hholds⟩ := htracks.claims ticket channelId claims hbatch
    exact ⟨hdistinct, fun claimed hmem => (hholds claimed hmem).advances hadvances⟩
  accepted := by
    intro ticket channelId claims hunrecorded claimed hmem row hlookup hversion
    rw [hcycles] at hunrecorded
    have hbatch := Cycle.batch_of_unrecorded hunrecorded
    obtain ⟨old, hold, hle, -⟩ := (htracks.claims ticket channelId claims hbatch).2 claimed hmem
    obtain ⟨moved, hmoved, hgrows, -⟩ := hadvances _ old hold
    have hrow : moved = row := Option.some.inj (hmoved.symm.trans hlookup)
    subst hrow
    have hsame : claimed.currentVersion = old.currentVersion := le_antisymm hle (hversion ▸ hgrows)
    rw [hsink]
    exact htracks.accepted ticket channelId claims hunrecorded claimed hmem old hold hsame

/-- A sweep at any point keeps the promises. -/
theorem Tracks.recompute {world : PublishWorld Ticket} (htracks : Tracks world)
    (stock : Stock) (channelId : String) (skuScope : SkuScope) (itemIds : Option (List ℕ)) :
    Tracks (world.recompute stock channelId skuScope itemIds) := by
  have hcases := recompute_cases stock channelId skuScope itemIds world.availability
  have hseq : world.availability.versionSeq ≤
      (recomputeChannel stock channelId skuScope itemIds world.availability).1.versionSeq :=
    versionSeq_upserts _ _
  -- a bumped row is dirty and carries no trace of a failure
  have hdirty : ∀ {key qty row}, Bumped world.availability.versionSeq qty
      (world.availability.rows.lookup key) row → row.lastVersion < row.currentVersion := by
    intro key qty row hbumped
    rw [hbumped.lastVersion]
    cases hold : world.availability.rows.lookup key with
    | none => exact Nat.zero_lt_of_lt hbumped.currentVersion
    | some old =>
        have hlast := (htracks.delivers.ordered key old hold).trans (htracks.drawn key old hold)
        exact hlast.trans_lt hbumped.currentVersion
  apply htracks.advances
  · constructor
    · intro key row hlookup
      rcases hcases key with hsame | ⟨qty, bumped, hafter, hbumped, -⟩
      · exact htracks.delivers.ordered key row (hsame ▸ hlookup)
      · have hrow : bumped = row := Option.some.inj (hafter.symm.trans hlookup)
        exact hrow ▸ (hdirty hbumped).le
    · intro key row hlookup hclean
      rcases hcases key with hsame | ⟨qty, bumped, hafter, hbumped, -⟩
      · exact htracks.delivers.delivered key row (hsame ▸ hlookup) hclean
      · have hrow : bumped = row := Option.some.inj (hafter.symm.trans hlookup)
        exact absurd hclean (hrow ▸ (hdirty hbumped).ne)
    · intro key row hlookup hdelayed
      rcases hcases key with hsame | ⟨qty, bumped, hafter, hbumped, -⟩
      · have hkept : (world.recompute stock channelId skuScope itemIds).blamed key =
            world.blamed key := if_pos hsame
        rw [hkept]
        exact htracks.delivers.delayed key row (hsame ▸ hlookup) hdelayed
      · have hrow : bumped = row := Option.some.inj (hafter.symm.trans hlookup)
        subst hrow
        rw [hbumped.dlq, hbumped.nextAttemptAt] at hdelayed
        simp at hdelayed
  · intro key row hlookup
    rcases hcases key with hsame | ⟨qty, bumped, hafter, -, hdrawn⟩
    · exact (htracks.drawn key row (hsame ▸ hlookup)).trans hseq
    · have hrow : bumped = row := Option.some.inj (hafter.symm.trans hlookup)
      exact hrow ▸ hdrawn
  · intro key row hlookup
    rcases hcases key with hsame | ⟨qty, bumped, hafter, hbumped, -⟩
    · exact ⟨row, hsame.trans hlookup, le_rfl, fun _ => rfl⟩
    · have hlt := (htracks.drawn key row hlookup).trans_lt hbumped.currentVersion
      exact ⟨bumped, hafter, hlt.le, fun hversion => absurd hversion hlt.ne⟩
  · rfl
  · rfl

/-! ## The marks -/

/-- The claims of an open cycle are still those of the table. -/
def StillCurrent (availability : Availability) (channelId : String)
    (claims : List ClaimedRow) : Prop :=
  ∀ claimed ∈ claims, ∀ row,
    availability.rows.lookup (channelId, claimed.itemId) = some row →
      row.currentVersion = claimed.currentVersion

/-- A marked row is the stored one, or the update of its claim. -/
theorem marked_cases {hset : ∀ claimed row, (set claimed row).key = row.key}
    (hdistinct : (claims.map ClaimedRow.itemId).Nodup) {row : AvailabilityRow}
    (hlookup : (markRows channelId set hset rows claims).lookup key = some row) :
    ∃ old, rows.lookup key = some old ∧
      ((claimOf channelId claims key = none ∧ row = old) ∨
        ∃ claimed, claimOf channelId claims key = some claimed ∧ row = set claimed old) := by
  rw [lookup_markRows hdistinct] at hlookup
  obtain ⟨old, hold, hrow⟩ := Option.map_eq_some_iff.mp hlookup
  refine ⟨old, hold, ?_⟩
  cases hclaim : claimOf channelId claims key with
  | none =>
      rw [hclaim] at hrow
      exact Or.inl ⟨rfl, hrow.symm⟩
  | some claimed =>
      rw [hclaim] at hrow
      exact Or.inr ⟨claimed, rfl, hrow.symm⟩

/-- A mark moves no number and no current version. -/
theorem advances_marked {hset : ∀ claimed row, (set claimed row).key = row.key}
    (hdistinct : (claims.map ClaimedRow.itemId).Nodup)
    (hkeeps : ∀ claimed row, (set claimed row).currentVersion = row.currentVersion ∧
      (set claimed row).availableQty = row.availableQty) :
    Advances availability
      { availability with rows := markRows channelId set hset availability.rows claims } := by
  intro key row hlookup
  have hafter : (markRows channelId set hset availability.rows claims).lookup key = some
      ((claimOf channelId claims key).elim row fun claimed => set claimed row) := by
    rw [lookup_markRows hdistinct, hlookup, Option.map_some]
  refine ⟨_, hafter, ?_⟩
  cases claimOf channelId claims key with
  | none => exact ⟨le_rfl, fun _ => rfl⟩
  | some claimed =>
      obtain ⟨hversion, hqty⟩ := hkeeps claimed row
      exact ⟨hversion.ge, fun _ => hqty.symm⟩

/-- The versions drawn cover a marked table as they did before. -/
theorem drawn_marked {hset : ∀ claimed row, (set claimed row).key = row.key}
    (hdistinct : (claims.map ClaimedRow.itemId).Nodup)
    (hkeeps : ∀ claimed row, (set claimed row).currentVersion = row.currentVersion)
    (hdrawn : ∀ key row, availability.rows.lookup key = some row →
      row.currentVersion ≤ availability.versionSeq) (key : AvailabilityKey)
    (row : AvailabilityRow)
    (hlookup : (markRows channelId set hset availability.rows claims).lookup key = some row) :
    row.currentVersion ≤ availability.versionSeq := by
  obtain ⟨old, hold, ⟨-, rfl⟩ | ⟨claimed, -, rfl⟩⟩ := marked_cases hdistinct hlookup
  · exact hdrawn key row hold
  · rw [hkeeps claimed old]
    exact hdrawn key old hold

theorem Tracks.markPublished {world : PublishWorld Ticket} (htracks : Tracks world)
    {ticket : Ticket} (hcycle : world.cycles ticket = .accepted channelId now claims) :
    Tracks (world.markPublished channelId now claims) := by
  have hbatch : (world.cycles ticket).batch = some (channelId, claims) := by rw [hcycle]; rfl
  have hunrecorded : (world.cycles ticket).unrecorded = some (channelId, claims) := by
    rw [hcycle]
    rfl
  obtain ⟨hdistinct, hholds⟩ := htracks.claims ticket channelId claims hbatch
  refine htracks.advances ?_ (drawn_marked hdistinct (fun _ _ => rfl) htracks.drawn)
    (advances_marked hdistinct fun _ _ => ⟨rfl, rfl⟩) rfl rfl
  constructor
  · intro key row hlookup
    obtain ⟨old, hold, ⟨-, rfl⟩ | ⟨claimed, hclaim, rfl⟩⟩ := marked_cases hdistinct hlookup
    · exact htracks.delivers.ordered key row hold
    · obtain ⟨hmem, rfl⟩ := claimOf_eq_some hclaim
      obtain ⟨stored, hstored, hle, -⟩ := hholds claimed hmem
      have hsame : stored = old := Option.some.inj (hstored.symm.trans hold)
      exact hsame ▸ hle
  · intro key row hlookup hclean
    obtain ⟨old, hold, ⟨-, rfl⟩ | ⟨claimed, hclaim, rfl⟩⟩ := marked_cases hdistinct hlookup
    · exact htracks.delivers.delivered key row hold hclean
    · obtain ⟨hmem, rfl⟩ := claimOf_eq_some hclaim
      obtain ⟨stored, hstored, -, hqty⟩ := hholds claimed hmem
      have hsame : stored = old := Option.some.inj (hstored.symm.trans hold)
      subst hsame
      have hsink : world.sink (channelId, claimed.itemId) = some claimed.availableQty :=
        htracks.accepted ticket channelId claims hunrecorded claimed hmem stored hstored hclean
      exact hsink.trans (congrArg some (hqty hclean))
  · intro key row hlookup hdelayed
    obtain ⟨old, hold, ⟨hnone, rfl⟩ | ⟨claimed, hclaim, rfl⟩⟩ := marked_cases hdistinct hlookup
    · have hkept : (world.markPublished channelId now claims).blamed key =
          world.blamed key := by
        change (if (claimOf channelId claims key).isSome then none else world.blamed key) = _
        rw [hnone]
        rfl
      rw [hkept]
      exact htracks.delivers.delayed key row hold hdelayed
    · simp [ClaimedRow.markPublished] at hdelayed

theorem Tracks.markFailed {world : PublishWorld Ticket} (htracks : Tracks world)
    {ticket : Ticket} {err : String}
    (hcycle : world.cycles ticket = .failed channelId now claims err)
    (hcurrent : StillCurrent world.availability channelId claims) :
    Tracks (world.markFailed channelId now claims err) := by
  have hbatch : (world.cycles ticket).batch = some (channelId, claims) := by rw [hcycle]; rfl
  obtain ⟨hdistinct, hholds⟩ := htracks.claims ticket channelId claims hbatch
  refine htracks.advances ?_ (drawn_marked hdistinct (fun _ _ => rfl) htracks.drawn)
    (advances_marked hdistinct fun _ _ => ⟨rfl, rfl⟩) rfl rfl
  constructor
  · intro key row hlookup
    obtain ⟨old, hold, ⟨-, rfl⟩ | ⟨claimed, hclaim, rfl⟩⟩ := marked_cases hdistinct hlookup
    · exact htracks.delivers.ordered key row hold
    · exact htracks.delivers.ordered key old hold
  · intro key row hlookup hclean
    obtain ⟨old, hold, ⟨-, rfl⟩ | ⟨claimed, hclaim, rfl⟩⟩ := marked_cases hdistinct hlookup
    · exact htracks.delivers.delivered key row hold hclean
    · exact htracks.delivers.delivered key old hold hclean
  · intro key row hlookup hdelayed
    have hblamed : (world.markFailed channelId now claims err).blamed key =
        ((claimOf channelId claims key).map ClaimedRow.currentVersion).or
          (world.blamed key) := rfl
    rw [hblamed]
    obtain ⟨old, hold, ⟨hnone, rfl⟩ | ⟨claimed, hclaim, rfl⟩⟩ := marked_cases hdistinct hlookup
    · rw [hnone]
      exact htracks.delivers.delayed key row hold hdelayed
    · obtain ⟨hmem, rfl⟩ := claimOf_eq_some hclaim
      rw [hclaim]
      exact congrArg some (hcurrent claimed hmem old hold).symm

/-! ## The claim and the post -/

/-- The claimed rows are rows of the channel, for different items. -/
theorem mem_claimDirty {batchSize : ℕ}
    (hmem : claimed ∈ claimDirty availability channelId batchSize now) :
    ∃ row, availability.rows.lookup (channelId, claimed.itemId) = some row ∧
      claimed = row.claim := by
  obtain ⟨row, hrow, rfl⟩ := List.mem_map.mp hmem
  have hselected := mem_orderBy.mp (List.mem_of_mem_take hrow)
  obtain ⟨hstored, htest⟩ := List.mem_filter.mp hselected
  simp only [Bool.and_eq_true, decide_eq_true_eq] at htest
  exact ⟨row, Keyed.lookup_eq_some_iff.mpr ⟨hstored, Prod.ext htest.1.1.1 rfl⟩, rfl⟩

theorem claimDirty_nodup (availability : Availability) (channelId : String) (batchSize now : ℕ) :
    ((claimDirty availability channelId batchSize now).map ClaimedRow.itemId).Nodup := by
  rw [claimDirty, List.map_map]
  generalize hselected : (availability.rows.rows.filter fun row =>
    row.channelId = channelId && row.lastVersion < row.currentVersion && !row.dlq &&
      row.nextAttemptAt.all fun at' => at' ≤ now) = selected
  have hkeys : (selected.map AvailabilityRow.key).Nodup := by
    rw [← hselected]
    exact (List.filter_sublist.map _).nodup availability.rows.keys_nodup
  have hchannel : ∀ row ∈ selected, row.channelId = channelId := by
    intro row hrow
    rw [← hselected] at hrow
    have htest := (List.mem_filter.mp hrow).2
    simp only [Bool.and_eq_true, decide_eq_true_eq] at htest
    exact htest.1.1.1
  have hitems : (selected.map AvailabilityRow.itemId).Nodup := by
    apply List.Nodup.of_map (fun itemId => (channelId, itemId))
    rw [List.map_map]
    have hsame : selected.map ((fun itemId => (channelId, itemId)) ∘ AvailabilityRow.itemId) =
        selected.map AvailabilityRow.key := by
      apply List.map_congr_left
      intro row hrow
      exact Prod.ext (hchannel row hrow).symm rfl
    rw [hsame]
    exact hkeys
  have hordered := (orderBy_perm (fun row other : AvailabilityRow =>
    row.currentVersion ≤ other.currentVersion) selected).map AvailabilityRow.itemId
  exact ((List.take_sublist _ _).map _).nodup (hordered.nodup_iff.mpr hitems)

/-- The sink is handed no old number: a row that is published, or whose current number
another cycle is about to record, has the number of the batch. -/
def HandsCurrent (world : PublishWorld Ticket) (ticket : Ticket) (channelId : String)
    (claims : List ClaimedRow) : Prop :=
  ∀ claimed ∈ claims, ∀ row,
    world.availability.rows.lookup (channelId, claimed.itemId) = some row →
      (row.lastVersion = row.currentVersion → row.availableQty = claimed.availableQty) ∧
        ∀ other, other ≠ ticket → ∀ claims',
          (world.cycles other).unrecorded = some (channelId, claims') →
            ∀ claimed' ∈ claims', claimed'.itemId = claimed.itemId →
              claimed'.currentVersion = row.currentVersion →
                claimed'.availableQty = claimed.availableQty

variable [DecidableEq Ticket]

/-- A cycle that moves on keeps what it knows, unless its batch is newly accepted. -/
theorem Tracks.setCycle {world : PublishWorld Ticket} (htracks : Tracks world) {ticket : Ticket}
    (hbatch : ∀ channelId claims, cycle.batch = some (channelId, claims) →
      (claims.map ClaimedRow.itemId).Nodup ∧
        ∀ claimed ∈ claims, ClaimHolds world.availability channelId claimed)
    (hunrecorded : ∀ channelId claims, cycle.unrecorded = some (channelId, claims) →
      ∀ claimed ∈ claims, ∀ row,
        world.availability.rows.lookup (channelId, claimed.itemId) = some row →
          claimed.currentVersion = row.currentVersion →
            world.sink (channelId, claimed.itemId) = some claimed.availableQty) :
    Tracks (world.setCycle ticket cycle) where
  delivers := ⟨htracks.delivers.ordered, htracks.delivers.delivered, htracks.delivers.delayed⟩
  drawn := htracks.drawn
  claims := by
    intro other channelId claims hopen
    change (Function.update world.cycles ticket cycle other).batch = _ at hopen
    by_cases hother : other = ticket
    · subst hother
      rw [Function.update_self] at hopen
      exact hbatch channelId claims hopen
    · rw [Function.update_of_ne hother] at hopen
      exact htracks.claims other channelId claims hopen
  accepted := by
    intro other channelId claims hopen
    change (Function.update world.cycles ticket cycle other).unrecorded = _ at hopen
    by_cases hother : other = ticket
    · subst hother
      rw [Function.update_self] at hopen
      exact hunrecorded channelId claims hopen
    · rw [Function.update_of_ne hother] at hopen
      exact htracks.accepted other channelId claims hopen

theorem Tracks.setIdle {world : PublishWorld Ticket} (htracks : Tracks world)
    (ticket : Ticket) : Tracks (world.setCycle ticket .idle) := by
  apply htracks.setCycle
  · intro channelId claims hbatch
    cases hbatch
  · intro channelId claims hunrecorded
    cases hunrecorded

theorem Tracks.claim {world : PublishWorld Ticket} (htracks : Tracks world)
    (ticket : Ticket) (channelId : String) (batchSize : ℕ) :
    Tracks (world.claim ticket channelId batchSize) := by
  rw [PublishWorld.claim]
  split
  · exact htracks
  · rename_i first rest hclaims
    apply htracks.setCycle
    · intro channelId' claims hbatch
      cases hbatch
      rw [← hclaims]
      refine ⟨claimDirty_nodup _ _ _ _, ?_⟩
      intro claimed hmem
      obtain ⟨row, hlookup, hclaim⟩ := mem_claimDirty hmem
      refine ⟨row, hlookup, ?_, ?_⟩
      · rw [hclaim]
        exact le_rfl
      · intro _
        rw [hclaim]
        rfl
    · intro channelId' claims hunrecorded
      cases hunrecorded

omit [DecidableEq Ticket] in
theorem sink_accept {world : PublishWorld Ticket} (key : AvailabilityKey) :
    (world.accept channelId claims).sink key =
      ((claimOf channelId claims key).map ClaimedRow.availableQty).or (world.sink key) := rfl

theorem Tracks.accept {world : PublishWorld Ticket} (htracks : Tracks world)
    {ticket : Ticket} (hcycle : world.cycles ticket = .claimed channelId now claims)
    (hcurrent : HandsCurrent world ticket channelId claims) :
    Tracks ((world.accept channelId claims).setCycle ticket
      (.accepted channelId now claims)) := by
  have hbatch : (world.cycles ticket).batch = some (channelId, claims) := by rw [hcycle]; rfl
  obtain ⟨hdistinct, hholds⟩ := htracks.claims ticket channelId claims hbatch
  constructor
  · constructor
    · exact htracks.delivers.ordered
    · intro key row hlookup hclean
      change (world.accept channelId claims).sink key = _
      rw [sink_accept]
      cases hclaim : claimOf channelId claims key with
      | none => exact htracks.delivers.delivered key row hlookup hclean
      | some claimed =>
          obtain ⟨hmem, rfl⟩ := claimOf_eq_some hclaim
          exact congrArg some ((hcurrent claimed hmem row hlookup).1 hclean).symm
    · exact htracks.delivers.delayed
  · exact htracks.drawn
  · intro other channelId' claims' hopen
    change (Function.update world.cycles ticket _ other).batch = _ at hopen
    by_cases hother : other = ticket
    · subst hother
      rw [Function.update_self] at hopen
      cases hopen
      exact ⟨hdistinct, hholds⟩
    · rw [Function.update_of_ne hother] at hopen
      exact htracks.claims other channelId' claims' hopen
  · intro other channelId' claims' hopen claimed' hmem' row hlookup hversion
    change (Function.update world.cycles ticket _ other).unrecorded = _ at hopen
    change (world.accept channelId claims).sink _ = _
    rw [sink_accept]
    by_cases hother : other = ticket
    · subst hother
      rw [Function.update_self] at hopen
      cases hopen
      rw [claimOf_of_mem hdistinct hmem']
      rfl
    · rw [Function.update_of_ne hother] at hopen
      cases hclaim : claimOf channelId claims (channelId', claimed'.itemId) with
      | none =>
          rw [Option.map_none, Option.none_or]
          exact htracks.accepted other channelId' claims' hopen claimed' hmem' row hlookup hversion
      | some claimed =>
          obtain ⟨hmem, hkey⟩ := claimOf_eq_some hclaim
          obtain ⟨hchannel, hitem⟩ := Prod.mk.inj hkey
          subst hchannel
          rw [hitem] at hlookup
          have hqty := (hcurrent claimed hmem row hlookup).2 other hother claims' hopen claimed'
            hmem' hitem hversion
          exact congrArg some hqty.symm

/-! ## Whole runs -/

/-- No batch fails after a sweep has bumped one of its rows, and the sink is handed no old
number of a row whose current one it has. -/
def PublishesCurrent (world : PublishWorld Ticket) : PublishStep Ticket → Prop
  | .post ticket .accepted =>
      ∀ channelId now claims, world.cycles ticket = .claimed channelId now claims →
        HandsCurrent world ticket channelId claims
  | .mark ticket =>
      ∀ channelId now claims err, world.cycles ticket = .failed channelId now claims err →
        StillCurrent world.availability channelId claims
  | _ => True

theorem tracks_step (world : PublishWorld Ticket) (step : PublishStep Ticket)
    (htracks : Tracks world) (hcurrent : PublishesCurrent world step) :
    Tracks (publishStep world step) := by
  cases step with
  | recompute stock channelId skuScope itemIds =>
      exact htracks.recompute stock channelId skuScope itemIds
  | claim ticket channelId batchSize =>
      rw [publishStep]
      split
      · exact htracks.claim ticket channelId batchSize
      · exact htracks
  | post ticket outcome =>
      simp only [publishStep]
      split
      · rename_i channelId now claims hcycle
        cases outcome with
        | unsafeAddress => exact htracks.setIdle ticket
        | accepted => exact htracks.accept hcycle (hcurrent channelId now claims hcycle)
        | failed err =>
            apply htracks.setCycle
            · intro channelId' claims' hbatch
              apply htracks.claims ticket
              rw [hcycle]
              exact hbatch
            · intro channelId' claims' hunrecorded
              cases hunrecorded
      · exact htracks
  | mark ticket =>
      simp only [publishStep]
      split
      · rename_i channelId now claims hcycle
        exact (htracks.markPublished hcycle).setIdle ticket
      · rename_i channelId now claims err hcycle
        exact (htracks.markFailed hcycle (hcurrent channelId now claims err hcycle)).setIdle ticket
      · exact htracks
  | crash ticket => exact htracks.setIdle ticket
  | elapse duration =>
      exact ⟨⟨htracks.delivers.ordered, htracks.delivers.delivered, htracks.delivers.delayed⟩,
        htracks.drawn, htracks.claims, htracks.accepted⟩

/-- In every run whose steps meet the condition, the publisher keeps its promises. -/
theorem no_change_lost (clock : ℕ) (steps : List (PublishStep Ticket))
    (hcurrent : Along publishStep PublishesCurrent (PublishWorld.start clock) steps) :
    Delivers (run publishStep (PublishWorld.start clock) steps) :=
  have htracks : Tracks (run publishStep (PublishWorld.start clock) steps) :=
    run_invariant tracks_step (tracks_start clock) hcurrent
  htracks.delivers

/-! ## A batch that fails late -/

/-- One item on one pickable shelf. -/
def shelfStock (onHand : ℤ) : Stock where
  db := { Db.empty with
    items := Table.empty.insert fun itemId =>
      { itemId := itemId, sku := "WIDGET", itemName := "Widget", upc := none
        barcodeAliases := [], isActive := true }
    bins := Table.empty.insert fun binId =>
      { binId := binId, warehouseId := 1, binCode := "A-01", binType := .binPickable
        pickSequence := 1, isActive := true }
    inventory := Table.empty.insert fun inventoryId =>
      { inventoryId := inventoryId, itemId := 1, binId := 1, warehouseId := 1
        quantityOnHand := onHand, quantityAllocated := 0, lotNumber := none, updatedAt := 0 } }
  category := fun _ => none

def sweepShelf (onHand : ℤ) : PublishStep Unit :=
  .recompute (shelfStock onHand) "amazon-fba" ⟨none, none, none⟩ none

/-- A batch that fails with nothing in between. -/
def failedCycle : List (PublishStep Unit) :=
  [sweepShelf 3, .claim () "amazon-fba" 100, .post () (.failed "busy"), .mark ()]

theorem failedCycle_current :
    Along publishStep PublishesCurrent (PublishWorld.start 0) failedCycle := by
  refine ⟨trivial, trivial, trivial, ?_, trivial⟩
  intro channelId now claims err hcycle
  have hclaimed : Cycle.failed "amazon-fba" 0 [⟨1, 1, 3, 0⟩] "busy" =
      .failed channelId now claims err := hcycle
  cases hclaimed
  intro claimed hmem row hlookup
  rw [List.mem_singleton.mp hmem] at hlookup
  have hrow : some (newRow "amazon-fba" (1, 3) 1) = some row := hlookup
  cases hrow
  rw [List.mem_singleton.mp hmem]
  rfl

theorem no_change_lost_in_turn : Delivers (run publishStep (PublishWorld.start 0) failedCycle) :=
  no_change_lost 0 failedCycle failedCycle_current

/-- A sweep lands between the claim and the failure, and the new number is delayed. -/
theorem new_number_delayed :
    ¬ Delivers (run publishStep (PublishWorld.start 0)
      [sweepShelf 3, .claim () "amazon-fba" 100, sweepShelf 5, .post () (.failed "busy"),
        .mark ()]) := by
  intro hdelivers
  have hdelayed := hdelivers.delayed ("amazon-fba", 1)
    (ClaimedRow.markFailed 0 "busy" ⟨1, 1, 3, 0⟩
      ((newRow "amazon-fba" (1, 3) 1).bump 5 3)) rfl (Or.inr (by decide))
  revert hdelayed
  decide

end SentryWms.Channels

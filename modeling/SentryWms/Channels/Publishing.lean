import Mathlib.Logic.Function.Basic
import SentryWms.Channels.Availability

/-!
# Publishing the dirty rows

A cycle claims dirty rows with a plain read, posts their numbers to the sink, and writes
the result back by item.  Sweeps commit at any point of a cycle, and cycles may overlap.
Beside the table the world keeps what the sink has accepted last, and the version whose
failure delays a row.
-/

namespace SentryWms.Channels

open Relational Inventory

/-! ## The statements of a cycle -/

/-- A row that `_claim_dirty` returns. -/
structure ClaimedRow where
  itemId : ℕ
  currentVersion : ℕ
  availableQty : ℤ
  attemptCount : ℕ
  deriving DecidableEq, Repr

def AvailabilityRow.claim (row : AvailabilityRow) : ClaimedRow where
  itemId := row.itemId
  currentVersion := row.currentVersion
  availableQty := row.availableQty
  attemptCount := row.attemptCount

/-- `_claim_dirty`; times are in microseconds. -/
def claimDirty (availability : Availability) (channelId : String) (batchSize now : ℕ) :
    List ClaimedRow :=
  ((orderBy (fun row other => row.currentVersion ≤ other.currentVersion)
    (availability.rows.rows.filter fun row =>
      row.channelId = channelId && row.lastVersion < row.currentVersion && !row.dlq &&
        row.nextAttemptAt.all fun at' => at' ≤ now)).take batchSize).map AvailabilityRow.claim

/-- `RETRY_BACKOFF_S`. -/
def retryBackoff : List ℕ := [30, 120, 600, 3600]

/-- `MAX_ATTEMPTS`. -/
def maxAttempts : ℕ := retryBackoff.length + 1

/-- The update of `_mark_published`. -/
def ClaimedRow.markPublished (now : ℕ) (claimed : ClaimedRow) (row : AvailabilityRow) :
    AvailabilityRow :=
  { row with
    lastVersion := claimed.currentVersion
    lastPublishedAt := some now
    attemptCount := 0
    nextAttemptAt := none
    dlq := false
    lastError := none }

/-- The update of `_mark_failed`. -/
def ClaimedRow.markFailed (now : ℕ) (err : String) (claimed : ClaimedRow)
    (row : AvailabilityRow) : AvailabilityRow :=
  let newAttempt := claimed.attemptCount + 1
  let backoff :=
    if maxAttempts ≤ newAttempt then retryBackoff.getLast (by decide)
    else retryBackoff.getD (newAttempt - 1) 0
  { row with
    attemptCount := newAttempt
    nextAttemptAt := some (now + backoff * 1000000)
    dlq := maxAttempts ≤ newAttempt
    lastError := some (String.ofList (err.toList.take 512)) }

/-- One `UPDATE ... WHERE channel_id = :cid AND item_id = :iid` for each claimed row. -/
def markRows (channelId : String) (set : ClaimedRow → AvailabilityRow → AvailabilityRow)
    (hset : ∀ claimed row, (set claimed row).key = row.key)
    (rows : Keyed AvailabilityRow AvailabilityRow.key) (claims : List ClaimedRow) :
    Keyed AvailabilityRow AvailabilityRow.key :=
  run (fun rows claimed =>
    rows.modify (fun row => row.key = (channelId, claimed.itemId)) (set claimed)
      (hset claimed)) rows claims

/-! ## Cycles beside sweeps -/

/-- How the sink answers, or the check of its address before. -/
inductive PostOutcome
  | unsafeAddress
  | accepted
  | failed (err : String)
  deriving DecidableEq, Repr

/-- A cycle: the rows it has claimed, and what came of posting them. -/
inductive Cycle
  | idle
  | claimed (channelId : String) (now : ℕ) (claims : List ClaimedRow)
  | accepted (channelId : String) (now : ℕ) (claims : List ClaimedRow)
  | failed (channelId : String) (now : ℕ) (claims : List ClaimedRow) (err : String)

/-- The committed table, the clock, the numbers that the sink has accepted last, the
versions whose failure delays a row, and the cycles. -/
structure PublishWorld (Ticket : Type*) where
  availability : Availability
  clock : ℕ
  sink : AvailabilityKey → Option ℤ
  blamed : AvailabilityKey → Option ℕ
  cycles : Ticket → Cycle

inductive PublishStep (Ticket : Type*)
  | recompute (stock : Stock) (channelId : String) (skuScope : SkuScope)
      (itemIds : Option (List ℕ))
  | claim (ticket : Ticket) (channelId : String) (batchSize : ℕ)
  | post (ticket : Ticket) (outcome : PostOutcome)
  | mark (ticket : Ticket)
  | crash (ticket : Ticket)
  | elapse (duration : ℕ)

/-- The claimed row of a key. -/
def claimOf (channelId : String) (claims : List ClaimedRow) (key : AvailabilityKey) :
    Option ClaimedRow :=
  claims.find? fun claimed => key = (channelId, claimed.itemId)

variable {Ticket : Type*}

namespace PublishWorld

/-- No row, no cycle, and nothing accepted. -/
def start (clock : ℕ) : PublishWorld Ticket where
  availability := ⟨.empty, 0⟩
  clock := clock
  sink := fun _ => none
  blamed := fun _ => none
  cycles := fun _ => .idle

/-- A sweep commits; the rows it has written start over. -/
def recompute (world : PublishWorld Ticket) (stock : Stock) (channelId : String)
    (skuScope : SkuScope) (itemIds : Option (List ℕ)) : PublishWorld Ticket :=
  let after := (recomputeChannel stock channelId skuScope itemIds world.availability).1
  { world with
    availability := after
    blamed := fun key =>
      if after.rows.lookup key = world.availability.rows.lookup key then world.blamed key
      else none }

/-- The sink applies an accepted batch. -/
def accept (world : PublishWorld Ticket) (channelId : String) (claims : List ClaimedRow) :
    PublishWorld Ticket :=
  { world with sink := fun key =>
      ((claimOf channelId claims key).map ClaimedRow.availableQty).or (world.sink key) }

/-- `_mark_published`, and the commit. -/
def markPublished (world : PublishWorld Ticket) (channelId : String) (now : ℕ)
    (claims : List ClaimedRow) : PublishWorld Ticket :=
  { world with
    availability :=
      { world.availability with
        rows := markRows channelId (ClaimedRow.markPublished now) (fun _ _ => rfl)
          world.availability.rows claims }
    blamed := fun key =>
      if (claimOf channelId claims key).isSome then none else world.blamed key }

/-- `_mark_failed`, and the commit. -/
def markFailed (world : PublishWorld Ticket) (channelId : String) (now : ℕ)
    (claims : List ClaimedRow) (err : String) : PublishWorld Ticket :=
  { world with
    availability :=
      { world.availability with
        rows := markRows channelId (ClaimedRow.markFailed now err) (fun _ _ => rfl)
          world.availability.rows claims }
    blamed := fun key =>
      ((claimOf channelId claims key).map ClaimedRow.currentVersion).or (world.blamed key) }

variable [DecidableEq Ticket]

def setCycle (world : PublishWorld Ticket) (ticket : Ticket) (cycle : Cycle) :
    PublishWorld Ticket :=
  { world with cycles := Function.update world.cycles ticket cycle }

/-- The claim of a cycle; nothing to do ends it. -/
def claim (world : PublishWorld Ticket) (ticket : Ticket) (channelId : String)
    (batchSize : ℕ) : PublishWorld Ticket :=
  match claimDirty world.availability channelId batchSize world.clock with
  | [] => world
  | first :: rest => world.setCycle ticket (.claimed channelId world.clock (first :: rest))

end PublishWorld

variable [DecidableEq Ticket]

/-- One step; a step that the cycle is not at does nothing. -/
def publishStep (world : PublishWorld Ticket) : PublishStep Ticket → PublishWorld Ticket
  | .recompute stock channelId skuScope itemIds =>
      world.recompute stock channelId skuScope itemIds
  | .claim ticket channelId batchSize =>
      match world.cycles ticket with
      | .idle => world.claim ticket channelId batchSize
      | _ => world
  | .post ticket outcome =>
      match world.cycles ticket with
      | .claimed channelId now claims =>
          match outcome with
          | .unsafeAddress => world.setCycle ticket .idle
          | .accepted =>
              (world.accept channelId claims).setCycle ticket (.accepted channelId now claims)
          | .failed err => world.setCycle ticket (.failed channelId now claims err)
      | _ => world
  | .mark ticket =>
      match world.cycles ticket with
      | .accepted channelId now claims =>
          (world.markPublished channelId now claims).setCycle ticket .idle
      | .failed channelId now claims err =>
          (world.markFailed channelId now claims err).setCycle ticket .idle
      | _ => world
  | .crash ticket => world.setCycle ticket .idle
  | .elapse duration => { world with clock := world.clock + duration }

end SentryWms.Channels

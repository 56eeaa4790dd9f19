import SentryWms.Relational.RollingWindow
import SentryWms.Relational.Sessions
import SentryWms.Webhooks.Dispatch

/-!
# Replays in batches

A replay locks its subscription, passes the throttles, which count the audit rows of
earlier replays, compares what its filter matches with the cap and the ceiling, and
inserts a pending delivery for each match.  Replays of different subscriptions hold
different locks.
-/

namespace SentryWms.Webhooks

open Relational Sessions

/-! ## Tables -/

/-- An audit row of `WEBHOOK_DELIVERY_REPLAY_BATCH`, stamped with the beginning of its
transaction. -/
structure ReplayAudit where
  subscriptionId : String
  impactCount : ℕ
  matchedWithoutEventData : ℕ
  createdAt : ℕ
  deriving DecidableEq, Repr

structure ReplayWorld where
  subscriptions : List WebhookSubscription
  deliveries : Deliveries
  audit : List ReplayAudit

/-- `ReplayBatchFilter`. -/
structure ReplayBatchFilter where
  status : DeliveryStatus := .dlq
  eventType : Option String := none
  warehouseId : Option ℕ := none
  completedAtFrom : Option ℕ := none
  completedAtTo : Option ℕ := none
  deriving DecidableEq, Repr

/-- A request with the moment its transaction begins. -/
structure ReplayBatchRequest where
  subscriptionId : String
  filter : ReplayBatchFilter
  acknowledgeLargeReplay : Bool
  now : ℕ
  deriving DecidableEq, Repr

/-- What the operator configures, and the events, which no replay writes. -/
structure ReplayConfig where
  isUuid : String → Bool
  globalWindowS : ℕ := 300
  globalBudget : ℕ := 5
  hardCap : ℕ := 10000
  events : ℕ → Option Events.IntegrationEvent

/-- `_REPLAY_BATCH_THROTTLE_S`. -/
def replayBatchThrottleS : ℕ := 60

/-! ## Queries -/

/-- The clauses of the filter on a delivery. -/
def matchesDelivery (subscriptionId : String) (filter : ReplayBatchFilter)
    (row : WebhookDelivery) : Bool :=
  row.subscriptionId = subscriptionId ∧ row.status = filter.status ∧
    (∀ bound ∈ filter.completedAtFrom, ∃ completedAt ∈ row.completedAt, bound ≤ completedAt) ∧
    ∀ bound ∈ filter.completedAtTo, ∃ completedAt ∈ row.completedAt, completedAt ≤ bound

/-- The clauses on the delivery's event; an absent event matches none. -/
def matchesEvent (filter : ReplayBatchFilter) (event : Option Events.IntegrationEvent) : Bool :=
  (∀ eventType ∈ filter.eventType, ∃ found ∈ event, found.eventType = eventType) ∧
    ∀ warehouseId ∈ filter.warehouseId, ∃ found ∈ event, found.warehouseId = warehouseId

/-- The deliveries that the whole filter matches. -/
def replayMatches (config : ReplayConfig) (request : ReplayBatchRequest)
    (world : ReplayWorld) : List WebhookDelivery :=
  world.deliveries.select fun row =>
    matchesDelivery request.subscriptionId request.filter row &&
      matchesEvent request.filter (config.events row.eventId)

/-- The deliveries that match but for their event, which is gone. -/
def prunedMatches (config : ReplayConfig) (request : ReplayBatchRequest)
    (world : ReplayWorld) : List WebhookDelivery :=
  world.deliveries.select fun row =>
    matchesDelivery request.subscriptionId request.filter row && (config.events row.eventId).isNone

/-- The deliveries of a subscription that are pending or in flight. -/
def pendingCount (subscriptionId : String) (world : ReplayWorld) : ℕ :=
  (world.deliveries.select fun row => row.subscriptionId = subscriptionId && nonTerminal row).length

/-- The age in seconds of a subscription's last replay, to the nearest second. -/
def lastReplayAge (request : ReplayBatchRequest) (world : ReplayWorld) : Option ℤ :=
  ((world.audit.filter fun row => row.subscriptionId = request.subscriptionId).getLast?).map
    fun row => ((request.now : ℤ) - row.createdAt + second / 2) / second

/-- The replays of the window that ends with the beginning of the request. -/
def globalCount (config : ReplayConfig) (request : ReplayBatchRequest)
    (world : ReplayWorld) : ℕ :=
  RollingWindow.since (config.globalWindowS * second) request.now
    (world.audit.map ReplayAudit.createdAt)

/-! ## The transaction -/

inductive ReplayMemory
  | start
  | locked (subscription : WebhookSubscription)
  | throttled (subscription : WebhookSubscription)
  | counted (subscription : WebhookSubscription)
  | impact (subscription : WebhookSubscription) (impact : ℕ)
  | pruned (subscription : WebhookSubscription) (impact pruned : ℕ)
  | cleared (subscription : WebhookSubscription) (impact pruned : ℕ)
  | inserted (impact pruned : ℕ) (eventIds : List ℕ)

inductive ReplayAnswer
  | refused (status : ℕ) (error : String)
  | replayed (impactCount matchedWithoutEventData : ℕ)
  deriving DecidableEq, Repr

abbrev ReplayOutcome := Outcome ReplayWorld ReplayMemory ReplayAnswer

/-- From its first statement on, a replay holds its subscription. -/
def replayHolds (request : ReplayBatchRequest) : ReplayMemory → String → Bool
  | .start, _ => false
  | _, subscriptionId => subscriptionId = request.subscriptionId

/-- `SELECT ... FOR UPDATE` of the subscription. -/
def lockSubscription (config : ReplayConfig) (request : ReplayBatchRequest)
    (isLocked : String → Bool) (world : ReplayWorld) : ReplayOutcome :=
  if !config.isUuid request.subscriptionId then
    .rollback (.refused 400 "invalid_subscription_id")
  else
    match findSubscription? world.subscriptions request.subscriptionId with
    | none => .rollback (.refused 404 "subscription_not_found")
    | some subscription =>
        if isLocked request.subscriptionId then .wait
        else if subscription.status = .revoked then
          .rollback (.refused 400 "cannot_replay_to_revoked_subscription")
        else .proceed (.locked subscription)

/-- The throttle of the subscription. -/
def checkThrottle (request : ReplayBatchRequest) (subscription : WebhookSubscription)
    (world : ReplayWorld) : ReplayOutcome :=
  if (lastReplayAge request world).any fun age => age < (replayBatchThrottleS : ℤ) then
    .rollback (.refused 429 "replay_batch_throttled")
  else .proceed (.throttled subscription)

/-- The throttle of the deployment. -/
def checkGlobalThrottle (config : ReplayConfig) (request : ReplayBatchRequest)
    (subscription : WebhookSubscription) (world : ReplayWorld) : ReplayOutcome :=
  if config.globalBudget ≤ globalCount config request world then
    .rollback (.refused 429 "replay_batch_global_throttled")
  else .proceed (.counted subscription)

/-- The hard cap, then the pending deliveries and the ceiling. -/
def checkCeiling (config : ReplayConfig) (request : ReplayBatchRequest)
    (subscription : WebhookSubscription) (impact pruned : ℕ) (world : ReplayWorld) :
    ReplayOutcome :=
  if config.hardCap < impact ∧ request.acknowledgeLargeReplay = false then
    .rollback (.refused 409 "batch_size_above_hard_cap")
  else if subscription.pendingCeiling < pendingCount request.subscriptionId world + impact then
    .rollback (.refused 409 "replay_would_exceed_pending_ceiling")
  else .proceed (.cleared subscription impact pruned)

/-- `INSERT INTO webhook_deliveries ... SELECT`. -/
def insertReplays (request : ReplayBatchRequest) (eventIds : List ℕ)
    (deliveries : Deliveries) : Deliveries :=
  eventIds.foldl (fun deliveries eventId =>
    deliveries.insert (pendingDelivery request.subscriptionId eventId 1 request.now))
    deliveries

/-- What a replay leaves when it commits. -/
def storeReplay (request : ReplayBatchRequest) (impact pruned : ℕ) (eventIds : List ℕ)
    (world : ReplayWorld) : ReplayWorld :=
  { world with
    deliveries := insertReplays request eventIds world.deliveries
    audit := world.audit ++ [⟨request.subscriptionId, impact, pruned, request.now⟩] }

/-- The statements of `replay_batch`. -/
def replayStatement (config : ReplayConfig) (request : ReplayBatchRequest)
    (memory : ReplayMemory) (isLocked : String → Bool) (world : ReplayWorld) :
    ReplayOutcome :=
  match memory with
  | .start => lockSubscription config request isLocked world
  | .locked subscription => checkThrottle request subscription world
  | .throttled subscription => checkGlobalThrottle config request subscription world
  | .counted subscription =>
      .proceed (.impact subscription (replayMatches config request world).length)
  | .impact subscription impact =>
      .proceed (.pruned subscription impact (prunedMatches config request world).length)
  | .pruned subscription impact pruned =>
      checkCeiling config request subscription impact pruned world
  | .cleared _ impact pruned =>
      if impact = 0 then
        .commit (storeReplay request 0 pruned [] world) (.replayed 0 pruned)
      else
        -- the filter is evaluated a second time
        .proceed (.inserted impact pruned
          ((replayMatches config request world).map WebhookDelivery.eventId))
  | .inserted impact pruned eventIds =>
      .commit (storeReplay request impact pruned eventIds world) (.replayed impact pruned)

/-- Replays as transactions. -/
def replayProgram (config : ReplayConfig) :
    Program ReplayWorld ReplayBatchRequest ReplayMemory String ReplayAnswer where
  start := fun _ => .start
  holds := replayHolds
  statement := replayStatement config
  start_holds := fun _ _ => rfl

/-! ## What is to be kept -/

/-- No window of the deployment holds more replays than the budget. -/
def BudgetKept (config : ReplayConfig) (world : ReplayWorld) : Prop :=
  RollingWindow.Kept (config.globalWindowS * second) config.globalBudget
    (world.audit.map ReplayAudit.createdAt)

/-- No subscription has been taken above its ceiling. -/
def WithinCeilings (opening world : ReplayWorld) : Prop :=
  ∀ subscriptionId subscription,
    findSubscription? world.subscriptions subscriptionId = some subscription →
      pendingCount subscriptionId world ≤
        max subscription.pendingCeiling (pendingCount subscriptionId opening)

/-- The count of a replay would still let it pass when it commits. -/
def StillUnderBudget (config : ReplayConfig) (request : ReplayBatchRequest)
    (_ : ReplayMemory) (world : ReplayWorld) : Prop :=
  globalCount config request world < config.globalBudget

/-! ## What a replay knows -/

/-- What holds of the committed world where a replay is: it has read its subscription, its
matches and the room below the ceiling under its lock. -/
def KnowsReplay (config : ReplayConfig) (request : ReplayBatchRequest)
    (memory : ReplayMemory) (world : ReplayWorld) : Prop :=
  let found := findSubscription? world.subscriptions request.subscriptionId
  let matched := (replayMatches config request world).length
  match memory with
  | .start => True
  | .locked subscription => found = some subscription
  | .throttled subscription => found = some subscription
  | .counted subscription => found = some subscription
  | .impact subscription impact => found = some subscription ∧ impact = matched
  | .pruned subscription impact _ => found = some subscription ∧ impact = matched
  | .cleared subscription impact _ =>
      found = some subscription ∧ impact = matched ∧
        pendingCount request.subscriptionId world + impact ≤ subscription.pendingCeiling
  | .inserted _ _ eventIds =>
      ∃ subscription, found = some subscription ∧
        pendingCount request.subscriptionId world + eventIds.length ≤ subscription.pendingCeiling

section Stores

variable {config : ReplayConfig} {request other : ReplayBatchRequest} {world : ReplayWorld}
  {eventIds : List ℕ} {impact pruned : ℕ} {memory : ReplayMemory}

/-- The inserts touch no row but the subscription's. -/
theorem select_insertReplays {test : WebhookDelivery → Bool} (deliveries : Deliveries)
    (htest : ∀ row, row.subscriptionId = request.subscriptionId → test row = false) :
    (insertReplays request eventIds deliveries).select test = deliveries.select test := by
  induction eventIds generalizing deliveries with
  | nil => rfl
  | cons eventId rest ih =>
      rw [insertReplays, List.foldl_cons, ← insertReplays, ih]
      change List.filter test (deliveries.rows ++ [_]) = _
      rw [List.filter_append, List.filter_singleton, htest _ rfl, cond_false, List.append_nil]
      rfl

theorem pendingCount_insertReplays (deliveries : Deliveries) :
    ((insertReplays request eventIds deliveries).select fun row =>
        row.subscriptionId = request.subscriptionId && nonTerminal row).length =
      (deliveries.select fun row =>
        row.subscriptionId = request.subscriptionId && nonTerminal row).length +
        eventIds.length := by
  induction eventIds generalizing deliveries with
  | nil => rfl
  | cons eventId rest ih =>
      rw [insertReplays, List.foldl_cons, ← insertReplays, ih]
      change (List.filter _ (deliveries.rows ++ [_])).length + _ = _
      rw [List.filter_append, List.length_append, List.length_cons]
      simp [Table.select, pendingDelivery, nonTerminal]
      omega

theorem pendingCount_storeReplay :
    pendingCount request.subscriptionId (storeReplay request impact pruned eventIds world) =
      pendingCount request.subscriptionId world + eventIds.length :=
  pendingCount_insertReplays world.deliveries

theorem pendingCount_storeReplay_of_ne {subscriptionId : String}
    (hne : subscriptionId ≠ request.subscriptionId) :
    pendingCount subscriptionId (storeReplay request impact pruned eventIds world) =
      pendingCount subscriptionId world := by
  apply congrArg List.length
  apply select_insertReplays
  intro row hrow
  simp [hrow, Ne.symm hne]

theorem replayMatches_storeReplay_of_ne (hne : other.subscriptionId ≠ request.subscriptionId) :
    replayMatches config other (storeReplay request impact pruned eventIds world) =
      replayMatches config other world := by
  apply select_insertReplays
  intro row hrow
  simp [matchesDelivery, hrow, Ne.symm hne]

/-- What another replay knows survives a commit on a different subscription. -/
theorem KnowsReplay.storeReplay (hne : other.subscriptionId ≠ request.subscriptionId)
    (hknown : KnowsReplay config other memory world) :
    KnowsReplay config other memory (storeReplay request impact pruned eventIds world) := by
  have hsubscriptions : (SentryWms.Webhooks.storeReplay request impact pruned eventIds
      world).subscriptions = world.subscriptions := rfl
  cases memory with
  | start => trivial
  | _ =>
      simpa only [KnowsReplay, hsubscriptions, replayMatches_storeReplay_of_ne hne,
        pendingCount_storeReplay_of_ne hne] using hknown

/-- A replay whose deliveries fit under the ceiling keeps the ceilings. -/
theorem WithinCeilings.storeReplay {opening : ReplayWorld} (hwithin : WithinCeilings opening world)
    (hfits : eventIds = [] ∨ ∃ subscription,
      findSubscription? world.subscriptions request.subscriptionId = some subscription ∧
        pendingCount request.subscriptionId world + eventIds.length ≤ subscription.pendingCeiling) :
    WithinCeilings opening (storeReplay request impact pruned eventIds world) := by
  intro subscriptionId subscription hfound
  have hbefore := hwithin subscriptionId subscription hfound
  by_cases hsame : subscriptionId = request.subscriptionId
  · subst hsame
    rw [pendingCount_storeReplay]
    cases hfits with
    | inl hnone =>
        rw [hnone]
        exact hbefore
    | inr hfits =>
        obtain ⟨known, hknown, hfit⟩ := hfits
        have hsubscription : known = subscription := by
          rw [← Option.some_inj, ← hknown]
          exact hfound
        rw [hsubscription] at hfit
        exact le_max_of_le_left hfit
  · rw [pendingCount_storeReplay_of_ne hsame]
    exact hbefore

end Stores

/-! ## One statement -/

section Statements

variable {config : ReplayConfig} {request : ReplayBatchRequest} {memory next : ReplayMemory}
  {isLocked : String → Bool} {world after : ReplayWorld} {answer : ReplayAnswer}

/-- The first statement reads the subscription once nobody else holds it. -/
theorem lockSubscription_cases (config : ReplayConfig) (request : ReplayBatchRequest)
    (isLocked : String → Bool) (world : ReplayWorld) :
    (∃ subscription, isLocked request.subscriptionId = false ∧
      findSubscription? world.subscriptions request.subscriptionId = some subscription ∧
        lockSubscription config request isLocked world = .proceed (.locked subscription)) ∨
      lockSubscription config request isLocked world = .wait ∨
      ∃ answer, lockSubscription config request isLocked world = .rollback answer := by
  rw [lockSubscription]
  split
  · exact Or.inr (Or.inr ⟨_, rfl⟩)
  · split
    · exact Or.inr (Or.inr ⟨_, rfl⟩)
    · rename_i subscription hfound
      split
      · exact Or.inr (Or.inl rfl)
      · rename_i hfree
        split
        · exact Or.inr (Or.inr ⟨_, rfl⟩)
        · exact Or.inl ⟨subscription, by simpa using hfree, hfound, rfl⟩

/-- A statement that leaves the replay open knows what it has read. -/
theorem replay_proceeds (hknown : KnowsReplay config request memory world)
    (hproceed : replayStatement config request memory isLocked world = .proceed next) :
    KnowsReplay config request next world := by
  cases memory with
  | start =>
      rw [replayStatement] at hproceed
      obtain ⟨subscription, -, hfound, hlock⟩ | hlock | ⟨answer, hlock⟩ :=
        lockSubscription_cases config request isLocked world
      · rw [hlock] at hproceed
        cases hproceed
        exact hfound
      · rw [hlock] at hproceed
        cases hproceed
      · rw [hlock] at hproceed
        cases hproceed
  | locked subscription =>
      simp only [replayStatement, checkThrottle] at hproceed
      split_ifs at hproceed
      cases hproceed
      exact hknown
  | throttled subscription =>
      simp only [replayStatement, checkGlobalThrottle] at hproceed
      split_ifs at hproceed
      cases hproceed
      exact hknown
  | counted subscription =>
      cases hproceed
      exact ⟨hknown, rfl⟩
  | impact subscription impact =>
      cases hproceed
      exact hknown
  | pruned subscription impact pruned =>
      simp only [replayStatement, checkCeiling] at hproceed
      split_ifs at hproceed with hcap hceiling
      cases hproceed
      exact ⟨hknown.1, hknown.2, Nat.le_of_not_lt hceiling⟩
  | cleared subscription impact pruned =>
      simp only [replayStatement] at hproceed
      split_ifs at hproceed
      cases hproceed
      obtain ⟨hfound, himpact, hfits⟩ := hknown
      refine ⟨subscription, hfound, ?_⟩
      rwa [List.length_map, ← himpact]
  | inserted impact pruned eventIds => cases hproceed

/-- A replay that commits stores what fits under its ceiling. -/
theorem replay_commits (hknown : KnowsReplay config request memory world)
    (hcommit : replayStatement config request memory isLocked world = .commit after answer) :
    ∃ impact pruned eventIds, memory ≠ .start ∧
      after = storeReplay request impact pruned eventIds world ∧
        (eventIds = [] ∨ ∃ subscription,
          findSubscription? world.subscriptions request.subscriptionId = some subscription ∧
            pendingCount request.subscriptionId world + eventIds.length ≤
              subscription.pendingCeiling) := by
  cases memory with
  | start =>
      rw [replayStatement] at hcommit
      obtain ⟨subscription, -, -, hlock⟩ | hlock | ⟨answer, hlock⟩ :=
        lockSubscription_cases config request isLocked world
      · rw [hlock] at hcommit
        cases hcommit
      · rw [hlock] at hcommit
        cases hcommit
      · rw [hlock] at hcommit
        cases hcommit
  | locked subscription =>
      simp only [replayStatement, checkThrottle] at hcommit
      split_ifs at hcommit
  | throttled subscription =>
      simp only [replayStatement, checkGlobalThrottle] at hcommit
      split_ifs at hcommit
  | counted | impact => cases hcommit
  | pruned subscription impact pruned =>
      simp only [replayStatement, checkCeiling] at hcommit
      split_ifs at hcommit
  | cleared subscription impact pruned =>
      simp only [replayStatement] at hcommit
      split_ifs at hcommit
      cases hcommit
      exact ⟨0, pruned, [], nofun, rfl, Or.inl rfl⟩
  | inserted impact pruned eventIds =>
      cases hcommit
      exact ⟨impact, pruned, eventIds, nofun, rfl, Or.inr hknown⟩

/-- A replay keeps its lock and takes only a free one. -/
theorem replay_acquires
    (hproceed : replayStatement config request memory isLocked world = .proceed next)
    (lock : String) (hlock : replayHolds request next lock = true) :
    replayHolds request memory lock = true ∨ isLocked lock = false := by
  have hown : lock = request.subscriptionId := by
    cases next <;> first | cases hlock | exact of_decide_eq_true hlock
  cases memory with
  | start =>
      right
      rw [hown]
      rw [replayStatement] at hproceed
      obtain ⟨subscription, hfree, -⟩ | hlock | ⟨answer, hlock⟩ :=
        lockSubscription_cases config request isLocked world
      · exact hfree
      · rw [hlock] at hproceed
        cases hproceed
      · rw [hlock] at hproceed
        cases hproceed
  | _ => exact Or.inl (decide_eq_true hown)

end Statements

/-- The outline of replays with an invariant that a commit keeps. -/
theorem replay_outline {config : ReplayConfig} {inv : ReplayWorld → Prop}
    {allowed : ReplayBatchRequest → ReplayMemory → ReplayWorld → Prop}
    (hcommits : ∀ request memory world impact pruned eventIds, inv world →
      allowed request memory world →
        (eventIds = [] ∨ ∃ subscription,
          findSubscription? world.subscriptions request.subscriptionId = some subscription ∧
            pendingCount request.subscriptionId world + eventIds.length ≤
              subscription.pendingCeiling) →
          inv (storeReplay request impact pruned eventIds world)) :
    Outline (replayProgram config) inv (KnowsReplay config) allowed
      fun _ _ _ _ _ => True where
  start := fun _ _ _ => trivial
  acquires := fun _ _ _ _ _ hproceed => replay_acquires hproceed
  proceeds := fun _ _ _ _ _ _ hknown hproceed => replay_proceeds hknown hproceed
  commits := by
    intro request memory isLocked world next answer hinv hknown hallowed hcommit
    obtain ⟨impact, pruned, eventIds, -, rfl, hfits⟩ := replay_commits hknown hcommit
    exact hcommits request memory world impact pruned eventIds hinv hallowed hfits
  stable := by
    intro request memory isLocked world next answer other memory' _ hknown hother _ hapart _ hcommit
    obtain ⟨impact, pruned, eventIds, hheld, rfl, -⟩ := replay_commits hknown hcommit
    by_cases hstart : memory' = .start
    · rw [hstart]
      trivial
    · apply hother.storeReplay
      intro hsame
      have hown : replayHolds request memory request.subscriptionId = true := by
        cases memory <;> first | exact absurd rfl hheld | exact decide_eq_true rfl
      have hfree := hapart request.subscriptionId hown
      change replayHolds other memory' request.subscriptionId = false at hfree
      rw [← hsame] at hfree
      cases memory' <;> first | exact absurd rfl hstart | simp [replayHolds] at hfree

section Runs

variable {Ticket : Type*} [Fintype Ticket] [DecidableEq Ticket] {config : ReplayConfig}
  {requests : Ticket → ReplayBatchRequest} {opening : ReplayWorld} {steps : List (Step Ticket)}

/-- Replays never take a subscription above its ceiling. -/
theorem ceilings_kept :
    WithinCeilings opening (run (Sessions.serve (replayProgram config) requests)
      (opened (replayProgram config) requests opening) steps).world := by
  have houtline : Outline (replayProgram config) (WithinCeilings opening)
      (KnowsReplay config) (fun _ _ _ => True) fun _ _ _ _ _ => True :=
    replay_outline fun _ _ _ _ _ _ hwithin _ hfits => hwithin.storeReplay hfits
  have hopening : WithinCeilings opening opening :=
    fun _ _ _ => le_max_right _ _
  exact (sound_run_always houtline hopening steps).inv

/-- The budget is kept while every replay would pass its count again when it commits; the
ceilings are kept always. -/
theorem replay_budget_kept (hopening : BudgetKept config opening)
    (hclear : Along (Sessions.serve (replayProgram config) requests)
      (Clear (replayProgram config) requests (StillUnderBudget config)
        fun _ _ _ _ _ => True)
      (opened (replayProgram config) requests opening) steps) :
    BudgetKept config (run (Sessions.serve (replayProgram config) requests)
        (opened (replayProgram config) requests opening) steps).world ∧
      WithinCeilings opening (run (Sessions.serve (replayProgram config) requests)
        (opened (replayProgram config) requests opening) steps).world := by
  have houtline : Outline (replayProgram config) (BudgetKept config) (KnowsReplay config)
      (StillUnderBudget config) fun _ _ _ _ _ => True := by
    apply replay_outline
    intro request memory world impact pruned eventIds hkept hunder _
    have happend := RollingWindow.Kept.append hkept hunder
    rw [BudgetKept, storeReplay, List.map_append]
    exact happend
  exact ⟨(sound_run houtline hopening hclear).inv, ceilings_kept⟩

end Runs

instance (config : ReplayConfig) (request : ReplayBatchRequest) (memory : ReplayMemory)
    (world : ReplayWorld) : Decidable (StillUnderBudget config request memory world) :=
  inferInstanceAs (Decidable (_ < _))

/-! ## Two subscriptions -/

namespace SmallReplay

def subscription (subscriptionId : String) : WebhookSubscription where
  subscriptionId := subscriptionId
  subscriptionFilter := some {}
  lastDeliveredEventId := 2
  status := .active
  pauseReason := none
  pendingCeiling := 100
  dlqCeiling := 10

def dead (subscriptionId : String) (eventId deliveryId : ℕ) : WebhookDelivery where
  deliveryId := deliveryId
  subscriptionId := subscriptionId
  eventId := eventId
  attemptNumber := 8
  status := .dlq
  scheduledAt := 5

/-- Each subscription has one dead delivery, and nothing has been replayed. -/
def opening : ReplayWorld where
  subscriptions := [subscription "erp", subscription "shop"]
  deliveries := (Table.empty.insert (dead "erp" 1)).insert (dead "shop" 2)
  audit := []

def config (globalBudget : ℕ) : ReplayConfig where
  isUuid := fun _ => true
  globalBudget := globalBudget
  events := fun _ => none

/-- Two administrators replay the dead deliveries of one subscription each. -/
def requests (shop : Bool) : ReplayBatchRequest :=
  ⟨if shop then "shop" else "erp", {}, false, 1000⟩

/-- Both have counted before the first commits. -/
def steps : List (Step Bool) :=
  List.replicate 3 (.advance false) ++ List.replicate 3 (.advance true) ++
    List.replicate 5 (.advance false) ++ List.replicate 5 (.advance true)

def after (globalBudget : ℕ) : ReplayWorld :=
  (run (Sessions.serve (replayProgram (config globalBudget)) requests)
    (opened (replayProgram (config globalBudget)) requests opening) steps).world

end SmallReplay

theorem replay_budget_kept_two :
    (SmallReplay.after 2).audit.length = 2 ∧
      BudgetKept (SmallReplay.config 2) (SmallReplay.after 2) ∧
      WithinCeilings SmallReplay.opening (SmallReplay.after 2) :=
  ⟨by decide, replay_budget_kept (fun _ => Nat.zero_le _) (by decide)⟩

/-- With a budget of one, both replays land at the same moment. -/
theorem replay_budget_exceeded :
    BudgetKept (SmallReplay.config 1) SmallReplay.opening ∧
      (SmallReplay.after 1).audit = [⟨"erp", 1, 1, 1000⟩, ⟨"shop", 1, 1, 1000⟩] ∧
      ¬ BudgetKept (SmallReplay.config 1) (SmallReplay.after 1) := by
  refine ⟨fun _ => Nat.zero_le _, by decide, ?_⟩
  intro hkept
  exact absurd (hkept 1000) (by decide)

end SentryWms.Webhooks

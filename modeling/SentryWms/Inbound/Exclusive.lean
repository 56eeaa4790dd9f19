import Mathlib.Data.Fintype.Basic
import SentryWms.Inbound.Handler
import SentryWms.Relational.Sessions

/-!
# One canonical row for each external record

The inbound handler, statement by statement.  The advisory lock is taken first and held
to the end, so that what a request has read of its record still holds when it writes:
whatever the order of statements, a record has one applied version and one canonical row.
-/

namespace SentryWms.Inbound

open Relational Sessions

variable {Source Canon : Type}

/-! ## The transaction -/

/-- The next statement, with what the earlier ones have found. -/
inductive InboundMemory (Source : Type)
  | start
  | locked (document : MappingDocument Source)
  | unstored (document : MappingDocument Source)
  | fresh (document : MappingDocument Source)
  | mapped (mapped : MappedPayload)
  | resolved (mapped : MappedPayload) (mapping? : Option CrossSystemMapping)
  | superseding (mapped : MappedPayload) (mapping? : Option CrossSystemMapping)
      (keys : List (SourceKey × String))

/-- `hashtext(source_system:external_id)`. -/
abbrev AdvisoryLock := String × String

def InboundRequest.lock (request : InboundRequest Source) : AdvisoryLock :=
  (request.token.sourceSystem, request.externalId)

def InboundMemory.holds (request : InboundRequest Source) :
    InboundMemory Source → AdvisoryLock → Bool
  | .start => fun _ => false
  | _ => fun lock => lock = request.lock

abbrev InboundOutcome (Source Canon : Type) :=
  Outcome (InboundDb Canon) (InboundMemory Source) InboundAnswer

/-- `handle_inbound`.  The canonical tables are written with the commit. -/
def inboundStatement (inbound : InboundApp Source Canon) (request : InboundRequest Source)
    (memory : InboundMemory Source) (isLocked : AdvisoryLock → Bool)
    (db : InboundDb Canon) : InboundOutcome Source Canon :=
  match memory with
  | .start =>
      match documentFor inbound request with
      | .error error => .rollback (.refused error)
      | .ok document =>
          if isLocked request.lock then
            .rollback (.refused (.httpError 409 "lock_held"))
          else .proceed (.locked document)
  | .locked document =>
      match storedVersion? request db with
      | some stored => .commit db (.repeated stored.canonicalId)
      | none => .proceed (.unstored document)
  | .unstored document =>
      match checkStale inbound request db document with
      | .error error => .rollback (.refused error)
      | .ok _ => .proceed (.fresh document)
  | .fresh document =>
      match mapPayload request db document with
      | .error error => .rollback (.refused error)
      | .ok mapped => .proceed (.mapped mapped)
  | .mapped mapped => .proceed (.resolved mapped (db.mappings.lookup request.recordKey))
  | .resolved mapped mapping? =>
      .proceed (.superseding mapped mapping? (supersededKeys request db))
  | .superseding mapped mapping? keys =>
      match acceptVersion inbound request db mapped mapping? keys with
      | .error error => .rollback (.refused error)
      | .ok next => .commit next (.accepted (canonicalIdOf request mapping?))

def inboundProgram (inbound : InboundApp Source Canon) :
    Program (InboundDb Canon) (InboundRequest Source) (InboundMemory Source) AdvisoryLock
      InboundAnswer where
  start := fun _ => .start
  holds := InboundMemory.holds
  statement := inboundStatement inbound
  start_holds := fun _ _ => rfl

/-! ## What an accepted version leaves -/

theorem written_keys_nodup (mapped : MappedPayload) : (mapped.written.map Prod.fst).Nodup :=
  List.Nodup.sublist (List.Sublist.map _ List.filter_sublist) mapped.payload.columns.keys_nodup

variable {row : StagedVersion}

section Accepting

variable {inbound : InboundApp Source Canon} {request : InboundRequest Source}
  {db next : InboundDb Canon} {mapped : MappedPayload}
  {mapping? : Option CrossSystemMapping} {keys : List (SourceKey × String)}

/-- A staged row after the superseding update. -/
def supersededRow (keys : List (SourceKey × String)) (row : StagedVersion) : StagedVersion :=
  if row.versionKey ∈ keys then { row with status := .superseded } else row

theorem supersededRow_recordKey (row : StagedVersion) :
    (supersededRow keys row).recordKey = row.recordKey := by
  rw [supersededRow]
  split <;> rfl

theorem supersededRow_versionKey (row : StagedVersion) :
    (supersededRow keys row).versionKey = row.versionKey := by
  rw [supersededRow]
  split <;> rfl

theorem supersededRow_canonicalId (row : StagedVersion) :
    (supersededRow keys row).canonicalId = row.canonicalId := by
  rw [supersededRow]
  split <;> rfl

/-- A row that is still applied was not superseded. -/
theorem not_mem_of_applied (happlied : (supersededRow keys row).status = .applied) :
    row.versionKey ∉ keys ∧ supersededRow keys row = row := by
  rw [supersededRow] at happlied ⊢
  split at happlied
  · cases happlied
  · rename_i hkept
    exact ⟨hkept, if_neg hkept⟩

theorem supersede_rows : (supersede db keys).rows = db.staged.rows.map (supersededRow keys) := by
  simp only [supersede, Keyed.modify]
  apply List.map_congr_left
  intro row _
  by_cases hkey : row.versionKey ∈ keys <;> simp [supersededRow, hkey]

/-- What `acceptVersion` writes. -/
structure Writes (inbound : InboundApp Source Canon) (request : InboundRequest Source)
    (mapped : MappedPayload) (mapping? : Option CrossSystemMapping)
    (keys : List (SourceKey × String)) (db next : InboundDb Canon) : Prop where
  canon : writeCanonical inbound request mapped mapping? db.canon = .ok next.canon
  rows : next.staged.rows = db.staged.rows.map (supersededRow keys) ++
    [stagedRow request mapped (canonicalIdOf request mapping?)]
  mappings : match mapping? with
    | some _ => next.mappings = db.mappings
    | none => ∃ hfree : db.mappings.lookup request.recordKey = none,
        next.mappings = db.mappings.insertNew ⟨request.recordKey, request.canonicalId⟩ hfree

theorem acceptVersion_ok
    (haccept : acceptVersion inbound request db mapped mapping? keys = .ok next) :
    Writes inbound request mapped mapping? keys db next := by
  simp only [acceptVersion, bind_eq_ok, pure_eq_ok] at haccept
  obtain ⟨canon, hcanon, mappings, hmappings, staged, hstaged, rfl⟩ := haccept
  refine ⟨hcanon, ?_, ?_⟩
  · simp only [insertStaged] at hstaged
    split at hstaged
    · cases hstaged
      change (supersede db keys).rows ++ _ = _
      rw [supersede_rows]
    · cases hstaged
  · cases mapping? with
    | some mapping =>
        cases hmappings
        rfl
    | none =>
        simp only [insertMapping] at hmappings
        split at hmappings
        · rename_i hfree
          cases hmappings
          exact ⟨hfree, rfl⟩
        · cases hmappings

/-- A later receipt: the cancel, the header and the lines, each where it applies. -/
theorem writeCanonical_some_iff {mapping : CrossSystemMapping} {canon result : Canon} :
    writeCanonical inbound request mapped (some mapping) canon = .ok result ↔
      ∃ cancelled updated,
        (if mapped.cancels request then
          inbound.store.cancelExisting request.ctx mapping.canonicalId canon
        else .ok canon) = .ok cancelled ∧
        (if mapped.written = [] then .ok cancelled
        else inbound.store.update request.resource mapping.canonicalId mapped.written
          cancelled) = .ok updated ∧
        inbound.store.writeLines request.resource mapping.canonicalId mapped.payload.lines
          updated = .ok result := by
  simp only [writeCanonical]
  by_cases hcancels : mapped.cancels request = true
  · by_cases hnothing : mapped.written = []
    · simp [hcancels, hnothing, bind_eq_ok]
    · simp [hcancels, hnothing, bind_eq_ok]
  · by_cases hnothing : mapped.written = []
    · simp [hcancels, hnothing, bind_eq_ok]
    · simp [hcancels, hnothing, bind_eq_ok]

/-- The mapping of the record is kept or made; those of others are kept. -/
theorem Writes.lookup (hwrites : Writes inbound request mapped mapping? keys db next)
    (hmapping : mapping? = db.mappings.lookup request.recordKey) (key : SourceKey) :
    next.mappings.lookup key =
      if key = request.recordKey then
        some ⟨request.recordKey, canonicalIdOf request mapping?⟩
      else db.mappings.lookup key := by
  have hmappings := hwrites.mappings
  cases mapping? with
  | none =>
      obtain ⟨hfree, hinserted⟩ := hmappings
      rw [hinserted, Keyed.lookup_insertNew]
      rfl
  | some mapping =>
      have hkept : next.mappings = db.mappings := hmappings
      rw [hkept]
      split
      · rename_i hkey
        have hrecord := Keyed.key_of_lookup hmapping.symm
        rw [hkey, ← hmapping, ← hrecord]
        rfl
      · rfl

end Accepting

/-! ## What a request knows of its record -/

/-- At most one applied version for each record, and one canonical row. -/
structure OneCanonicalRow (db : InboundDb Canon) : Prop where
  oneApplied : ∀ row ∈ db.staged.rows, ∀ other ∈ db.staged.rows,
    row.recordKey = other.recordKey → row.status = .applied → other.status = .applied → row = other
  oneCanonical : ∀ row ∈ db.staged.rows,
    db.mappings.lookup row.recordKey = some ⟨row.recordKey, row.canonicalId⟩

/-- The version was not accepted before. -/
def Unstored (request : InboundRequest Source) (db : InboundDb Canon) : Prop :=
  ∀ row ∈ db.staged.rows, row.versionKey ≠ request.versionKey

/-- The keys name the applied rows of the record. -/
structure NamesCurrent (request : InboundRequest Source)
    (keys : List (SourceKey × String)) (db : InboundDb Canon) : Prop where
  record : ∀ key ∈ keys, key.1 = request.recordKey
  current : ∀ row ∈ db.staged.rows,
    row.recordKey = request.recordKey → (row.versionKey ∈ keys ↔ row.status = .applied)

def inboundKnown (request : InboundRequest Source) (memory : InboundMemory Source)
    (db : InboundDb Canon) : Prop :=
  match memory with
  | .start | .locked _ => True
  | .unstored _ | .fresh _ | .mapped _ => Unstored request db
  | .resolved _ mapping? =>
      Unstored request db ∧ mapping? = db.mappings.lookup request.recordKey
  | .superseding _ mapping? keys =>
      Unstored request db ∧ mapping? = db.mappings.lookup request.recordKey ∧
        NamesCurrent request keys db

/-- An accepted version is applied, and supersedes the versions of its record; it is
written to the canonical row of the record, a new one only if there is none; the others
stay. -/
structure Accepted (inbound : InboundApp Source Canon) (request : InboundRequest Source)
    (canonicalId : ℕ) (db next : InboundDb Canon) : Prop where
  unstored : Unstored request db
  canon : ∃ mapped, writeCanonical inbound request mapped
    (db.mappings.lookup request.recordKey) db.canon = .ok next.canon
  canonicalId_eq : canonicalId = canonicalIdOf request (db.mappings.lookup request.recordKey)
  mapped : next.mappings.lookup request.recordKey = some ⟨request.recordKey, canonicalId⟩
  applied : ∃ row ∈ next.staged.rows, row.versionKey = request.versionKey ∧
    row.canonicalId = canonicalId ∧ row.status = .applied
  supersedes : ∀ row ∈ db.staged.rows, row.recordKey = request.recordKey →
    { row with status := .superseded } ∈ next.staged.rows
  others : ∀ row, row.recordKey ≠ request.recordKey →
    (row ∈ next.staged.rows ↔ row ∈ db.staged.rows)
  otherMappings : ∀ key, key ≠ request.recordKey → next.mappings.lookup key = db.mappings.lookup key

section Knowledge

variable {inbound : InboundApp Source Canon} {request : InboundRequest Source}
  {db next : InboundDb Canon} {mapped : MappedPayload}
  {mapping? : Option CrossSystemMapping} {keys : List (SourceKey × String)}

theorem unstored_of_lookup (hnone : storedVersion? request db = none) : Unstored request db :=
  Keyed.lookup_eq_none_iff.mp hnone

theorem isCurrent_iff :
    isCurrent request row = true ↔
      row.recordKey = request.recordKey ∧ row.status = .applied := by
  simp [isCurrent]

theorem namesCurrent_supersededKeys (request : InboundRequest Source)
    (db : InboundDb Canon) : NamesCurrent request (supersededKeys request db) db where
  record := by
    intro key hkey
    obtain ⟨row, hrow, rfl⟩ := List.mem_map.mp hkey
    exact (isCurrent_iff.mp (List.mem_filter.mp hrow).2).1
  current := by
    intro row hrow hrecord
    constructor
    · intro hkey
      obtain ⟨other, hother, hsame⟩ := List.mem_map.mp hkey
      obtain ⟨hmem, hcurrent⟩ := List.mem_filter.mp hother
      obtain rfl := List.inj_on_of_nodup_map db.staged.keys_nodup hmem hrow hsame
      exact (isCurrent_iff.mp hcurrent).2
    · intro happlied
      exact List.mem_map_of_mem (List.mem_filter.mpr ⟨hrow, isCurrent_iff.mpr ⟨hrecord, happlied⟩⟩)

theorem Writes.mem_rows
    (hwrites : Writes inbound request mapped mapping? keys db next) :
    row ∈ next.staged.rows ↔
      (∃ old ∈ db.staged.rows, supersededRow keys old = row) ∨
        row = stagedRow request mapped (canonicalIdOf request mapping?) := by
  rw [hwrites.rows, List.mem_append, List.mem_map, List.mem_singleton]

/-- Rows of other records are neither written nor added. -/
theorem Writes.other_rows
    (hwrites : Writes inbound request mapped mapping? keys db next)
    (hkeys : ∀ key ∈ keys, key.1 = request.recordKey)
    (hother : row.recordKey ≠ request.recordKey) :
    row ∈ next.staged.rows ↔ row ∈ db.staged.rows := by
  have huntouched : ∀ old : StagedVersion, old.recordKey ≠ request.recordKey →
      supersededRow keys old = old :=
    fun old hold => if_neg fun hkey => hold (hkeys _ hkey)
  rw [hwrites.mem_rows]
  constructor
  · rintro (⟨old, hold, rfl⟩ | rfl)
    · rw [supersededRow_recordKey] at hother
      rw [huntouched old hother]
      exact hold
    · exact (hother rfl).elim
  · intro hrow
    exact Or.inl ⟨row, hrow, huntouched row hother⟩

/-- The update leaves no row of the record applied. -/
theorem NamesCurrent.not_applied (hnames : NamesCurrent request keys db)
    (hrow : row ∈ db.staged.rows) (hrecord : row.recordKey = request.recordKey) :
    (supersededRow keys row).status ≠ .applied := by
  intro happlied
  obtain ⟨hkept, hsame⟩ := not_mem_of_applied happlied
  rw [hsame] at happlied
  exact hkept ((hnames.current row hrow hrecord).mpr happlied)

theorem Writes.oneCanonicalRow
    (hwrites : Writes inbound request mapped mapping? keys db next)
    (hsound : OneCanonicalRow db)
    (hmapping : mapping? = db.mappings.lookup request.recordKey)
    (hnames : NamesCurrent request keys db) : OneCanonicalRow next where
  oneApplied := by
    intro row hrow other hother hrecord happlied happlied'
    rcases hwrites.mem_rows.mp hrow with ⟨first, hfirst, rfl⟩ | rfl
    · rcases hwrites.mem_rows.mp hother with ⟨second, hsecond, rfl⟩ | rfl
      · obtain ⟨-, hfirstKept⟩ := not_mem_of_applied happlied
        obtain ⟨-, hsecondKept⟩ := not_mem_of_applied happlied'
        rw [hfirstKept] at happlied hrecord ⊢
        rw [hsecondKept] at happlied' hrecord ⊢
        exact hsound.oneApplied first hfirst second hsecond hrecord happlied happlied'
      · rw [supersededRow_recordKey] at hrecord
        exact (hnames.not_applied hfirst hrecord happlied).elim
    · rcases hwrites.mem_rows.mp hother with ⟨second, hsecond, rfl⟩ | rfl
      · rw [supersededRow_recordKey] at hrecord
        exact (hnames.not_applied hsecond hrecord.symm happlied').elim
      · rfl
  oneCanonical := by
    intro row hrow
    rw [hwrites.lookup hmapping]
    rcases hwrites.mem_rows.mp hrow with ⟨old, hold, rfl⟩ | rfl
    · have hmapped := hsound.oneCanonical old hold
      rw [supersededRow_recordKey, supersededRow_canonicalId]
      split
      · rename_i hrecord
        rw [hrecord, ← hmapping] at hmapped
        rw [hmapped, hrecord]
        rfl
      · exact hmapped
    · exact if_pos rfl

theorem Writes.accepted (hwrites : Writes inbound request mapped mapping? keys db next)
    (hunstored : Unstored request db)
    (hmapping : mapping? = db.mappings.lookup request.recordKey)
    (hnames : NamesCurrent request keys db) :
    Accepted inbound request (canonicalIdOf request mapping?) db next where
  unstored := hunstored
  canon := ⟨mapped, hmapping ▸ hwrites.canon⟩
  canonicalId_eq := congrArg (canonicalIdOf request) hmapping
  mapped := by rw [hwrites.lookup hmapping, if_pos rfl]
  applied := ⟨_, hwrites.mem_rows.mpr (Or.inr rfl), rfl, rfl, rfl⟩
  supersedes := by
    intro row hrow hrecord
    apply hwrites.mem_rows.mpr
    refine Or.inl ⟨row, hrow, ?_⟩
    rw [supersededRow]
    split
    · rfl
    · rename_i hkept
      cases hstatus : row.status with
      | applied => exact (hkept ((hnames.current row hrow hrecord).mpr hstatus)).elim
      | superseded => rw [← hstatus]
  others := fun _ hother => hwrites.other_rows hnames.record hother
  otherMappings := by
    intro key hkey
    rw [hwrites.lookup hmapping, if_neg hkey]

/-- The commit of another record leaves what a request knows of its own. -/
theorem known_of_others {memory : InboundMemory Source}
    (hrows : ∀ row : StagedVersion, row.recordKey = request.recordKey →
      (row ∈ next.staged.rows ↔ row ∈ db.staged.rows))
    (hmapping : next.mappings.lookup request.recordKey = db.mappings.lookup request.recordKey)
    (hknown : inboundKnown request memory db) : inboundKnown request memory next := by
  have hunstored : Unstored request db → Unstored request next := by
    intro hunstored row hrow hkey
    have hrecord : row.recordKey = request.recordKey := congrArg Prod.fst hkey
    exact hunstored row ((hrows row hrecord).mp hrow) hkey
  cases memory with
  | start | locked => trivial
  | unstored | fresh | mapped => exact hunstored hknown
  | resolved mapped mapping? => exact ⟨hunstored hknown.1, hknown.2.trans hmapping.symm⟩
  | superseding mapped mapping? keys =>
      obtain ⟨hnot, hfound, hnames⟩ := hknown
      refine ⟨hunstored hnot, hfound.trans hmapping.symm, hnames.record, ?_⟩
      intro row hrow hrecord
      exact hnames.current row ((hrows row hrecord).mp hrow) hrecord

end Knowledge

/-! ## Every order of statements -/

section Outline

variable {inbound : InboundApp Source Canon} {request : InboundRequest Source}
  {memory after : InboundMemory Source} {isLocked : AdvisoryLock → Bool}
  {db next : InboundDb Canon} {answer : InboundAnswer}

/-- A statement that goes on takes the lock if it is the first, and has found what the
next one relies on. -/
theorem inbound_proceed
    (hproceed : inboundStatement inbound request memory isLocked db = .proceed after)
    (hknown : inboundKnown request memory db) :
    inboundKnown request after db ∧
      (memory = .start → isLocked request.lock = false) := by
  cases memory with
  | start =>
      simp only [inboundStatement] at hproceed
      split at hproceed
      · cases hproceed
      · split at hproceed <;> cases hproceed
        rename_i hfree
        exact ⟨trivial, fun _ => by simpa using hfree⟩
  | locked document =>
      simp only [inboundStatement] at hproceed
      split at hproceed <;> cases hproceed
      rename_i hnone
      exact ⟨unstored_of_lookup hnone, fun h => by cases h⟩
  | unstored | fresh =>
      simp only [inboundStatement] at hproceed
      split at hproceed <;> cases hproceed
      exact ⟨hknown, fun h => by cases h⟩
  | mapped mapped =>
      cases hproceed
      exact ⟨⟨hknown, rfl⟩, fun h => by cases h⟩
  | resolved mapped mapping? =>
      cases hproceed
      exact ⟨⟨hknown.1, hknown.2, namesCurrent_supersededKeys request db⟩,
        fun h => by cases h⟩
  | superseding mapped mapping? keys =>
      simp only [inboundStatement] at hproceed
      split at hproceed <;> cases hproceed

/-- A commit repeats an accepted version, or accepts one. -/
theorem inbound_commit
    (hcommit : inboundStatement inbound request memory isLocked db = .commit next answer) :
    (next = db ∧ ∃ canonicalId, answer = .repeated canonicalId) ∨
      ∃ mapped mapping? keys, memory = .superseding mapped mapping? keys ∧
        answer = .accepted (canonicalIdOf request mapping?) ∧
        Writes inbound request mapped mapping? keys db next := by
  cases memory with
  | start =>
      simp only [inboundStatement] at hcommit
      split at hcommit
      · cases hcommit
      · split at hcommit <;> cases hcommit
  | locked document =>
      simp only [inboundStatement] at hcommit
      split at hcommit <;> cases hcommit
      exact Or.inl ⟨rfl, _, rfl⟩
  | unstored | fresh =>
      simp only [inboundStatement] at hcommit
      split at hcommit <;> cases hcommit
  | mapped mapped => cases hcommit
  | resolved mapped mapping? => cases hcommit
  | superseding mapped mapping? keys =>
      simp only [inboundStatement] at hcommit
      split at hcommit <;> cases hcommit
      rename_i haccept
      exact Or.inr ⟨mapped, mapping?, keys, rfl, rfl, acceptVersion_ok haccept⟩

/-- A rollback refuses. -/
theorem inbound_rollback
    (hrollback : inboundStatement inbound request memory isLocked db = .rollback answer) :
    ∃ error, answer = .refused error := by
  cases memory with
  | start =>
      simp only [inboundStatement] at hrollback
      split at hrollback
      · cases hrollback
        exact ⟨_, rfl⟩
      · split at hrollback <;> cases hrollback
        exact ⟨_, rfl⟩
  | locked document =>
      simp only [inboundStatement] at hrollback
      split at hrollback <;> cases hrollback
  | unstored | fresh | superseding =>
      simp only [inboundStatement] at hrollback
      split at hrollback <;> cases hrollback
      exact ⟨_, rfl⟩
  | mapped | resolved => cases hrollback

theorem holds_iff {lock : AdvisoryLock} :
    memory.holds request lock = true ↔ memory ≠ .start ∧ lock = request.lock := by
  cases memory <;> simp [InboundMemory.holds]

/-- A commit that accepts a version leaves records under other locks alone. -/
theorem known_stable {other : InboundRequest Source} {memory' : InboundMemory Source}
    (hknown : inboundKnown request memory db) (hother : inboundKnown other memory' db)
    (hapart : request.lock ≠ other.lock)
    (hcommit : inboundStatement inbound request memory isLocked db = .commit next answer) :
    inboundKnown other memory' next := by
  rcases inbound_commit hcommit with ⟨rfl, -⟩ | ⟨mapped, mapping?, keys, rfl, -, hwrites⟩
  · exact hother
  · obtain ⟨-, hmapping, hnames⟩ := hknown
    have hrecord : other.recordKey ≠ request.recordKey := by
      intro hsame
      apply hapart
      rw [InboundRequest.lock, InboundRequest.lock]
      exact (congrArg Prod.snd hsame).symm
    apply known_of_others _ _ hother
    · intro row hrow
      exact hwrites.other_rows hnames.record (hrow ▸ hrecord)
    · rw [hwrites.lookup hmapping, if_neg hrecord]

end Outline

theorem inbound_outline (inbound : InboundApp Source Canon) :
    Outline (inboundProgram inbound) OneCanonicalRow inboundKnown (fun _ _ _ => True)
      (fun _ _ _ _ _ => True) where
  start := fun _ _ _ => trivial
  acquires := by
    intro request memory isLocked db after hproceed lock hheld
    have hnext : inboundStatement inbound request memory isLocked db = .proceed after := hproceed
    obtain ⟨-, rfl⟩ := holds_iff.mp hheld
    by_cases hstart : memory = .start
    · subst hstart
      exact Or.inr ((inbound_proceed hnext trivial).2 rfl)
    · exact Or.inl (holds_iff.mpr ⟨hstart, rfl⟩)
  proceeds := fun _ _ _ _ _ _ hknown hproceed => (inbound_proceed hproceed hknown).1
  commits := by
    intro request memory isLocked db next answer hsound hknown _ hcommit
    rcases inbound_commit hcommit with ⟨rfl, -⟩ | ⟨mapped, mapping?, keys, rfl, -, hwrites⟩
    · exact hsound
    · exact hwrites.oneCanonicalRow hsound hknown.2.1 hknown.2.2
  stable := by
    intro request memory isLocked db next answer other memory' _ hknown hother hlocked hapart
      _ hcommit
    by_cases hsame : request.lock = other.lock
    · -- the two cannot both hold the lock of the record
      by_cases hstart' : memory' = .start
      · subst hstart'
        trivial
      · by_cases hstart : memory = .start
        · subst hstart
          have hstep : inboundStatement inbound request .start isLocked db =
            .commit next answer := hcommit
          rcases inbound_commit hstep with ⟨rfl, -⟩ | ⟨_, _, _, hmemory, -⟩
          · exact hother
          · cases hmemory
        · have hfree := hapart request.lock (holds_iff.mpr ⟨hstart, rfl⟩)
          have hheld : memory'.holds other request.lock = true := holds_iff.mpr ⟨hstart', hsame⟩
          exact (Bool.false_ne_true (hfree.symm.trans hheld)).elim
    · exact known_stable hknown hother hsame hcommit

/-- In the step the running request is answered `accepted`. -/
def AnswersAccepted {Ticket : Type} (ticket : Ticket) (canonicalId : ℕ)
    (service next : Service (InboundDb Canon) Ticket (InboundMemory Source) InboundAnswer) :
    Prop :=
  (∃ memory, service.stage ticket = .running memory) ∧
    next.stage ticket = .ended (some (.accepted canonicalId))

/-- Whatever the order of statements, a record has one applied version and one canonical
row; the step that answers `accepted` stages the request's version as the applied one,
which supersedes the earlier ones, and writes the canonical row it names; every other
step leaves the tables alone, and so does every request whose version is stored. -/
theorem one_canonical_row {Ticket : Type} [Fintype Ticket] [DecidableEq Ticket]
    (inbound : InboundApp Source Canon) (requests : Ticket → InboundRequest Source)
    (db : InboundDb Canon) (hsound : OneCanonicalRow db) (steps : List (Step Ticket))
    (ticket : Ticket) :
    let service := run (Sessions.serve (inboundProgram inbound) requests)
      (opened (inboundProgram inbound) requests db) steps
    let next := Sessions.serve (inboundProgram inbound) requests service (.advance ticket)
    OneCanonicalRow service.world ∧
      (∀ canonicalId, AnswersAccepted ticket canonicalId service next →
        Accepted inbound (requests ticket) canonicalId service.world next.world) ∧
      ((∀ canonicalId, ¬ AnswersAccepted ticket canonicalId service next) →
        next.world = service.world) ∧
      (¬ Unstored (requests ticket) service.world → next.world = service.world) := by
  intro service next
  have hreached : Sound (inboundProgram inbound) requests OneCanonicalRow inboundKnown
      service := sound_run_always (inbound_outline inbound) hsound steps
  have haccepts : ∀ canonicalId, AnswersAccepted ticket canonicalId service next →
      Accepted inbound (requests ticket) canonicalId service.world next.world := by
    rintro canonicalId ⟨⟨memory, hstage⟩, hanswer⟩
    have hknown := hreached.known ticket memory hstage
    rcases serve_advance_answer hstage hanswer with ⟨world, houtcome, hworld⟩ | houtcome
    · have hnext : next.world = world := hworld
      rw [hnext]
      rcases inbound_commit houtcome with ⟨-, _, hrepeated⟩ | ⟨mapped, mapping?, keys, rfl, hid,
        hwrites⟩
      · cases hrepeated
      · cases hid
        exact hwrites.accepted hknown.1 hknown.2.1 hknown.2.2
    · obtain ⟨error, hrefused⟩ := inbound_rollback houtcome
      cases hrefused
  have hstep : next.world = service.world ∨
      ∃ canonicalId, AnswersAccepted ticket canonicalId service next := by
    rcases serve_advance_world service ticket with
      hsame | ⟨memory, world, answer, hstage, houtcome, hworld⟩
    · exact Or.inl hsame
    · rcases inbound_commit houtcome with ⟨hsame, -⟩ | ⟨mapped, mapping?, keys, -, hid, -⟩
      · exact Or.inl (hworld.trans hsame)
      · refine Or.inr ⟨canonicalIdOf (requests ticket) mapping?, ⟨memory, hstage⟩, ?_⟩
        have hnext : next = settle service ticket (.commit world answer) :=
          (serve_advance hstage).trans (congrArg (settle service ticket) houtcome)
        rw [hnext, hid]
        exact Function.update_self ..
  refine ⟨hreached.inv, haccepts, ?_, ?_⟩
  · intro hnone
    exact hstep.resolve_right fun ⟨canonicalId, hanswers⟩ => hnone canonicalId hanswers
  · intro hstored
    exact hstep.resolve_right fun ⟨canonicalId, hanswers⟩ =>
      hstored (haccepts canonicalId hanswers).unstored

/-- A shop whose document declares no column, with canonical tables that keep the ids of
their rows. -/
def shopApp : InboundApp Unit (List ℕ) where
  registry := fun _ => some
    { versionCompare := .lexicographic
      fieldSet := fun _ => []
      applyMapping := fun _ _ _ => .ok ⟨Keyed.empty, []⟩ }
  parsers := ⟨fun _ => none, fun _ => none⟩
  store :=
    { cancelExisting := fun _ _ canon => .ok canon
      fraudReview := fun _ _ => false
      insert := fun _ canonicalId _ canon => .ok (canonicalId :: canon)
      update := fun _ _ _ canon => .ok canon
      writeLines := fun _ _ _ canon => .ok canon }

/-- The first version of an order, and the second sent twice, each with an id for its
row. -/
def shopRequests (ticket : Fin 3) : InboundRequest Unit where
  ctx := ⟨"shop", false, false, [], ticket, ticket⟩
  resource := .salesOrders
  token := ⟨"shop", false, [], []⟩
  externalId := "A-1"
  externalVersion := if ticket = 0 then "1" else "2"
  sourcePayload := ()
  bodyOverrides := false
  canonicalId := 10 + ticket
  receivedAt := ticket

/-- The second version is refused while the first holds the lock of the order; sent again
after the first is accepted, it has come to its last statement. -/
def shopSteps : List (Step (Fin 3)) :=
  [.advance 0, .advance 1, .advance 0, .advance 0, .advance 0, .advance 0, .advance 0,
    .advance 0, .advance 2, .advance 2, .advance 2, .advance 2, .advance 2, .advance 2]

def shopAfter (steps : List (Step (Fin 3))) :
    Service (InboundDb (List ℕ)) (Fin 3) (InboundMemory Unit) InboundAnswer :=
  run (Sessions.serve (inboundProgram shopApp) shopRequests)
    (opened (inboundProgram shopApp) shopRequests ⟨Keyed.empty, Keyed.empty, []⟩) steps

/-- The two versions are accepted one after the other: the second supersedes the first, on
the canonical row of the first. -/
theorem one_canonical_row_two_versions :
    (shopAfter shopSteps).stage 0 = .ended (some (.accepted 10)) ∧
      Accepted shopApp (shopRequests 2) 10 (shopAfter shopSteps).world
        (shopAfter (shopSteps ++ [.advance 2])).world ∧
      (shopAfter (shopSteps ++ [.advance 2])).world.staged.rows.map
          (fun row => (row.externalVersion, row.canonicalId, row.status)) =
        [("1", 10, .superseded), ("2", 10, .applied)] :=
  ⟨rfl, (one_canonical_row shopApp shopRequests ⟨Keyed.empty, Keyed.empty, []⟩
    ⟨(fun _ hrow => by cases hrow), (fun _ hrow => by cases hrow)⟩ shopSteps 2).2.1 10
      ⟨⟨_, rfl⟩, rfl⟩, rfl⟩

end SentryWms.Inbound

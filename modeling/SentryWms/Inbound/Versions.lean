import Mathlib.Data.Finset.Max
import Mathlib.Data.String.Basic
import SentryWms.Inbound.Exclusive
import SentryWms.Relational.Register

/-!
# Convergence of versions

The handler, seen from one record, is a register: a version accepted before is repeated,
one that the applied version makes stale is refused, and any other is applied and written
through.  A set of versions converges when one of them outranks every other; the
comparison reads two versions as numbers or times where both are such, and as strings
where one is not, so that three of them can outrank each other in a circle.
-/

namespace SentryWms.Inbound

open Relational

variable {Source Canon : Type}

/-! ## The comparison -/

/-- The incoming version does not get past the one on the server. -/
def staleAgainst (parsers : VersionParsers) (strategy : VersionCompare)
    (server incoming : String) : Bool :=
  match isNewer parsers strategy server incoming with
  | .ok newer => newer
  | .error _ => true

/-- Two times of one kind, in order. -/
def IsoDatetime.IsLater : IsoDatetime → IsoDatetime → Prop
  | .naive time, .naive other => other < time
  | .aware time, .aware other => other < time
  | _, _ => False

/-- A relation on what two strings say, where both say something. -/
def BothSay {Said : Type} (relation : Said → Said → Prop) (otherwise : Prop) :
    Option Said → Option Said → Prop
  | some said, some otherSaid => relation said otherSaid
  | _, _ => otherwise

/-- The order on versions: as numbers or as times where both are such, as strings
otherwise, and none between a local time and one with an offset. -/
def Outranks (parsers : VersionParsers) (strategy : VersionCompare)
    (version other : String) : Prop :=
  match strategy with
  | .isoTimestamp => BothSay IsoDatetime.IsLater (other < version)
      (parsers.fromisoformat version) (parsers.fromisoformat other)
  | .integer => BothSay (fun number otherNumber : ℤ => otherNumber < number)
      (other < version) (parsers.int version) (parsers.int other)
  | .lexicographic => other < version

instance : ∀ time other : IsoDatetime, Decidable (time.IsLater other)
  | .naive time, .naive other => inferInstanceAs (Decidable (other < time))
  | .aware time, .aware other => inferInstanceAs (Decidable (other < time))
  | .naive _, .aware _ => inferInstanceAs (Decidable False)
  | .aware _, .naive _ => inferInstanceAs (Decidable False)

instance {Said : Type} (relation : Said → Said → Prop) (otherwise : Prop)
    [∀ said otherSaid, Decidable (relation said otherSaid)] [Decidable otherwise] :
    ∀ said otherSaid, Decidable (BothSay relation otherwise said otherSaid)
  | some said, some otherSaid => inferInstanceAs (Decidable (relation said otherSaid))
  | none, _ => inferInstanceAs (Decidable otherwise)
  | some _, none => inferInstanceAs (Decidable otherwise)

instance (parsers : VersionParsers) (version other : String) :
    ∀ strategy, Decidable (Outranks parsers strategy version other)
  | .isoTimestamp => inferInstanceAs (Decidable (BothSay _ _ _ _))
  | .integer => inferInstanceAs (Decidable (BothSay _ _ _ _))
  | .lexicographic => inferInstanceAs (Decidable (other < version))

section Comparison

variable {parsers : VersionParsers} {strategy : VersionCompare} {version other : String}

theorem decide_outranks {Order : Type*} [LinearOrder Order] (first second : Order) :
    decide (second < first) = true ∧ decide (first < second) = false ↔
      second < first := by
  rw [decide_eq_true_iff, decide_eq_false_iff_not, not_lt]
  exact and_iff_left_of_imp le_of_lt

theorem isAfter_iff (time otherTime : IsoDatetime) :
    (match time.isAfter otherTime with
      | .ok newer => newer
      | .error _ => true) = true ∧
    (match otherTime.isAfter time with
      | .ok newer => newer
      | .error _ => true) = false ↔ time.IsLater otherTime := by
  cases time with
  | naive micros =>
      cases otherTime with
      | naive otherMicros => exact decide_outranks micros otherMicros
      | aware otherMicros => simp [IsoDatetime.isAfter, IsoDatetime.IsLater]
  | aware micros =>
      cases otherTime with
      | naive otherMicros => simp [IsoDatetime.isAfter, IsoDatetime.IsLater]
      | aware otherMicros => exact decide_outranks micros otherMicros

/-- A version outranks another when it makes it stale, and is not stale itself. -/
theorem stale_iff_outranks :
    staleAgainst parsers strategy version other = true ∧
        staleAgainst parsers strategy other version = false ↔
      Outranks parsers strategy version other := by
  cases strategy with
  | lexicographic => exact decide_outranks version other
  | integer =>
      simp only [staleAgainst, isNewer, Outranks, BothSay]
      cases parsers.int version with
      | none => cases parsers.int other <;> exact decide_outranks version other
      | some number =>
          cases parsers.int other with
          | none => exact decide_outranks version other
          | some otherNumber => exact decide_outranks number otherNumber
  | isoTimestamp =>
      simp only [staleAgainst, isNewer, Outranks, BothSay]
      cases parsers.fromisoformat version with
      | none => cases parsers.fromisoformat other <;> exact decide_outranks version other
      | some time =>
          cases parsers.fromisoformat other with
          | none => exact decide_outranks version other
          | some otherTime => exact isAfter_iff time otherTime

end Comparison

/-! ## What the canonical tables hold -/

/-- Each column as it was written. -/
def Columns.Holds (columns : Columns) (written : List (String × Value)) : Prop :=
  ∀ entry ∈ written, columns.get entry.1 = entry.2

/-- Canonical tables with a header to read, that take what the source sends. -/
structure Takes (store : CanonicalStore Canon)
    (header : Canon → InboundResource → ℕ → Option Columns) : Prop where
  cancels : ∀ ctx canonicalId canon columns,
    header canon .salesOrders canonicalId = some columns →
      ∃ next cancelled, store.cancelExisting ctx canonicalId canon = .ok next ∧
        header next .salesOrders canonicalId = some cancelled
  notHeld : ∀ written canon, store.fraudReview written canon = false
  inserts : ∀ resource canonicalId written canon,
    (written.map Prod.fst).Nodup → header canon resource canonicalId = none →
      ∃ next columns, store.insert resource canonicalId written canon = .ok next ∧
        header next resource canonicalId = some columns ∧ columns.Holds written
  updates : ∀ resource canonicalId written canon columns,
    (written.map Prod.fst).Nodup → header canon resource canonicalId = some columns →
      ∃ next updated, store.update resource canonicalId written canon = .ok next ∧
        header next resource canonicalId = some updated ∧ updated.Holds written
  takesLines : ∀ resource canonicalId lines canon columns,
    header canon resource canonicalId = some columns →
      ∃ next, store.writeLines resource canonicalId lines canon = .ok next ∧
        header next resource canonicalId = some columns

/-- The canonical row of the record has the content. -/
def Carries (header : Canon → InboundResource → ℕ → Option Columns)
    (db : InboundDb Canon) (record : SourceKey) (written : List (String × Value)) : Prop :=
  ∃ mapping columns, db.mappings.lookup record = some mapping ∧
    header db.canon record.1 mapping.canonicalId = some columns ∧ columns.Holds written

/-- The request sends a version of the record, with the content of that version. -/
structure Sends (inbound : InboundApp Source Canon) (document : MappingDocument Source)
    (record : SourceKey) (contents : String → MappedPayload)
    (request : InboundRequest Source) : Prop where
  record : request.recordKey = record
  loaded : inbound.registry request.token.sourceSystem = some document
  noOverrides : request.bodyOverrides = false
  content : ∀ db : InboundDb Canon,
    mapPayload request db document = .ok (contents request.externalVersion)

/-- Nothing was received of the record, and the ids are new. -/
structure Unreceived (header : Canon → InboundResource → ℕ → Option Columns)
    (record : SourceKey) (ids : List ℕ) (db : InboundDb Canon) : Prop where
  unstaged : ∀ row ∈ db.staged.rows, row.recordKey ≠ record
  unmapped : db.mappings.lookup record = none
  fresh : ∀ canonicalId ∈ ids, header db.canon record.1 canonicalId = none

/-- Whatever the versions contain and in whatever order they come, with repeats, the
canonical row ends with the content of one and the same version. -/
def VersionsConverge (parsers : VersionParsers) (strategy : VersionCompare)
    (versions : Finset String) : Prop :=
  ∃ greatest ∈ versions, ∀ (Source Canon : Type) (inbound : InboundApp Source Canon)
    (document : MappingDocument Source)
    (header : Canon → InboundResource → ℕ → Option Columns) (record : SourceKey)
    (contents : String → MappedPayload) (requests : List (InboundRequest Source))
    (db : InboundDb Canon),
    inbound.parsers = parsers → document.versionCompare = strategy → Takes inbound.store header →
      (∀ request ∈ requests, Sends inbound document record contents request) →
      (requests.map InboundRequest.externalVersion).toFinset = versions →
      Unreceived header record (requests.map InboundRequest.canonicalId) db →
        Carries header (run (postInbound inbound) db requests) record (contents greatest).written

/-! ## One request -/

section Request

variable {inbound : InboundApp Source Canon} {document : MappingDocument Source}
  {header : Canon → InboundResource → ℕ → Option Columns} {record : SourceKey}
  {contents : String → MappedPayload} {request : InboundRequest Source}
  {db next : InboundDb Canon}

theorem documentFor_eq (hsends : Sends inbound document record contents request) :
    documentFor inbound request = .ok document := by
  simp only [documentFor, require_bind hsends.noOverrides, hsends.loaded]
  rfl

theorem postInbound_of_stored (hdocument : documentFor inbound request = .ok document)
    {stored : StagedVersion} (hstored : storedVersion? request db = some stored) :
    postInbound inbound db request = db := by
  simp [postInbound, handleInbound, hdocument, hstored, bind, Except.bind, pure, Except.pure]

theorem postInbound_of_stale (hdocument : documentFor inbound request = .ok document)
    (hstored : storedVersion? request db = none) {error : ServiceError}
    (hstale : checkStale inbound request db document = .error error) :
    postInbound inbound db request = db := by
  simp [postInbound, handleInbound, hdocument, hstored, hstale, bind, Except.bind]

theorem postInbound_of_accepted (hdocument : documentFor inbound request = .ok document)
    (hstored : storedVersion? request db = none)
    (hfresh : checkStale inbound request db document = .ok ()) {mapped : MappedPayload}
    (hmapped : mapPayload request db document = .ok mapped)
    (haccept : acceptVersion inbound request db mapped
      (db.mappings.lookup request.recordKey) (supersededKeys request db) = .ok next) :
    postInbound inbound db request = next := by
  simp [postInbound, handleInbound, hdocument, hstored, hfresh, hmapped, haccept, bind,
    Except.bind, pure, Except.pure]

variable (inbound document) in
/-- The gate reads the version of the applied row. -/
theorem checkStale_of_current {current : StagedVersion}
    (hcurrent : currentVersion? request db = some current) :
    (staleAgainst inbound.parsers document.versionCompare current.externalVersion
        request.externalVersion = false →
      checkStale inbound request db document = .ok ()) ∧
    (staleAgainst inbound.parsers document.versionCompare current.externalVersion
        request.externalVersion = true →
      ∃ error, checkStale inbound request db document = .error error) := by
  simp only [checkStale, hcurrent, staleAgainst]
  cases isNewer inbound.parsers document.versionCompare current.externalVersion
      request.externalVersion with
  | error error => exact ⟨(fun hfresh => by cases hfresh), (fun _ => ⟨error, rfl⟩)⟩
  | ok newer =>
      constructor
      · rintro rfl
        rfl
      · rintro rfl
        exact ⟨_, rfl⟩

/-- The tables take the payload, under the id that the mapping has. -/
theorem writeCanonical_takes (htakes : Takes inbound.store header)
    (mapped : MappedPayload) {mapping? : Option CrossSystemMapping} {canon : Canon}
    (hinsert : mapping? = none → header canon request.resource request.canonicalId = none)
    (hupdate : ∀ mapping, mapping? = some mapping →
      ∃ columns, header canon request.resource mapping.canonicalId = some columns) :
    ∃ next columns, writeCanonical inbound request mapped mapping? canon = .ok next ∧
      header next request.resource (canonicalIdOf request mapping?) = some columns ∧
        columns.Holds mapped.written := by
  cases mapping? with
  | none =>
      have hkept : withFraudReview inbound request mapped.written canon = mapped.written := by
        simp [withFraudReview, htakes.notHeld]
      obtain ⟨inserted, columns, hinserted, hheader, hholds⟩ := htakes.inserts request.resource
        request.canonicalId mapped.written canon (written_keys_nodup mapped) (hinsert rfl)
      obtain ⟨next, hlines, hlast⟩ := htakes.takesLines request.resource
        request.canonicalId mapped.payload.lines inserted columns hheader
      refine ⟨next, columns, ?_, hlast, hholds⟩
      simp only [writeCanonical, hkept, hinserted, bind, Except.bind, hlines]
  | some mapping =>
      obtain ⟨columns, hheader⟩ := hupdate mapping rfl
      have hcancel : ∃ cancelled cancelledColumns,
          (if mapped.cancels request then
            inbound.store.cancelExisting request.ctx mapping.canonicalId canon
          else .ok canon) = .ok cancelled ∧
          header cancelled request.resource mapping.canonicalId = some cancelledColumns := by
        by_cases hcancels : mapped.cancels request
        · have hresource : request.resource = .salesOrders := by
            simp only [MappedPayload.cancels, decide_eq_true_eq] at hcancels
            exact hcancels.1
          rw [if_pos hcancels, hresource]
          exact htakes.cancels request.ctx mapping.canonicalId canon columns (hresource ▸ hheader)
        · rw [if_neg hcancels]
          exact ⟨canon, columns, rfl, hheader⟩
      obtain ⟨cancelled, cancelledColumns, hcancelled, hstill⟩ := hcancel
      have hwrite : ∃ updated updatedColumns,
          (if mapped.written = [] then .ok cancelled
          else inbound.store.update request.resource mapping.canonicalId mapped.written
            cancelled) = .ok updated ∧
          header updated request.resource mapping.canonicalId = some updatedColumns ∧
            updatedColumns.Holds mapped.written := by
        by_cases hnothing : mapped.written = []
        · rw [if_pos hnothing, hnothing]
          exact ⟨cancelled, cancelledColumns, rfl, hstill,
            fun _ hmember => absurd hmember List.not_mem_nil⟩
        · rw [if_neg hnothing]
          exact htakes.updates request.resource mapping.canonicalId mapped.written cancelled
            cancelledColumns (written_keys_nodup mapped) hstill
      obtain ⟨updated, updatedColumns, hupdated, hheld, hholds⟩ := hwrite
      obtain ⟨next, hlines, hlast⟩ := htakes.takesLines request.resource
        mapping.canonicalId mapped.payload.lines updated updatedColumns hheld
      exact ⟨next, updatedColumns,
        writeCanonical_some_iff.mpr ⟨cancelled, updated, hcancelled, hupdated, hlines⟩, hlast,
        hholds⟩

end Request

/-! ## The handler as a register -/

/-- The staging table has the accepted versions of the record, the one in the register
applied and written through. -/
structure Follows (header : Canon → InboundResource → ℕ → Option Columns)
    (record : SourceKey) (ids : List ℕ) (contents : String → MappedPayload)
    (db : InboundDb Canon) (accepted : List String) : Prop where
  stored : ∀ version,
    (∃ row ∈ db.staged.rows, row.versionKey = (record, version)) ↔ version ∈ accepted
  applied : ∀ row ∈ db.staged.rows, row.recordKey = record →
    (row.status = .applied ↔ accepted.head? = some row.externalVersion)
  carried : ∀ version, accepted.head? = some version →
    Carries header db record (contents version).written
  unreceived : accepted = [] → Unreceived header record ids db

section Following

variable {inbound : InboundApp Source Canon} {document : MappingDocument Source}
  {header : Canon → InboundResource → ℕ → Option Columns} {record : SourceKey}
  {contents : String → MappedPayload} {request : InboundRequest Source}
  {db next : InboundDb Canon} {ids : List ℕ} {accepted : List String}

theorem follows_of_unreceived (hunreceived : Unreceived header record ids db) :
    Follows header record ids contents db [] where
  stored := by
    intro version
    constructor
    · rintro ⟨row, hrow, hkey⟩
      exact (hunreceived.unstaged row hrow (congrArg Prod.fst hkey)).elim
    · intro hnone
      cases hnone
  applied := fun row hrow hrecord => (hunreceived.unstaged row hrow hrecord).elim
  carried := nofun
  unreceived := fun _ => hunreceived

/-- The version was stored exactly when the register has accepted it. -/
theorem Follows.storedVersion (hfollows : Follows header record ids contents db accepted)
    (hrecord : request.recordKey = record) :
    storedVersion? request db = none ↔ request.externalVersion ∉ accepted := by
  rw [← hfollows.stored, storedVersion?, Keyed.lookup_eq_none_iff, ← hrecord]
  simp only [not_exists, not_and]
  rfl

/-- The gate reads the version in the register. -/
theorem Follows.currentVersion (hfollows : Follows header record ids contents db accepted)
    (hrecord : request.recordKey = record) :
    (currentVersion? request db).map StagedVersion.externalVersion = accepted.head? := by
  have hcurrent : ∀ row ∈ db.staged.rows, isCurrent request row = true ↔
      row.recordKey = record ∧ accepted.head? = some row.externalVersion := by
    intro row hrow
    rw [isCurrent_iff, hrecord]
    exact and_congr_right fun hsame => hfollows.applied row hrow hsame
  cases hfound : currentVersion? request db with
  | none =>
      rw [currentVersion?, List.argmax_eq_none, List.filter_eq_nil_iff] at hfound
      cases hhead : accepted.head? with
      | none => rfl
      | some version =>
          obtain ⟨row, hrow, hkey⟩ := (hfollows.stored version).mpr (List.mem_of_mem_head? hhead)
          have hversion : row.externalVersion = version := congrArg Prod.snd hkey
          refine (hfound row hrow ((hcurrent row hrow).mpr ⟨congrArg Prod.fst hkey, ?_⟩)).elim
          rw [hhead, hversion]
  | some current =>
      obtain ⟨hmem, hthis⟩ := List.mem_filter.mp (List.argmax_mem hfound)
      exact (((hcurrent current hmem).mp hthis).2).symm

theorem insertMapping_ok (request : InboundRequest Source) (db : InboundDb Canon) :
    ∃ mappings, insertMapping request db (db.mappings.lookup request.recordKey) =
      .ok mappings := by
  cases hfound : db.mappings.lookup request.recordKey with
  | some mapping => exact ⟨db.mappings, rfl⟩
  | none => exact ⟨_, dif_pos hfound⟩

theorem insertStaged_ok (mapped : MappedPayload) (canonicalId : ℕ)
    (keys : List (SourceKey × String)) (hunstored : Unstored request db) :
    ∃ staged, insertStaged request mapped canonicalId (supersede db keys) = .ok staged := by
  have hfree : (supersede db keys).lookup
      (stagedRow request mapped canonicalId).versionKey = none := by
    rw [Keyed.lookup_eq_none_iff, supersede_rows]
    intro row hrow
    obtain ⟨old, hold, rfl⟩ := List.mem_map.mp hrow
    rw [supersededRow_versionKey]
    exact hunstored old hold
  exact ⟨_, dif_pos hfree⟩

/-- A first receipt finds its id free, a later one finds the row of the record. -/
theorem Follows.accepts (hfollows : Follows header record ids contents db accepted)
    (htakes : Takes inbound.store header)
    (hsends : Sends inbound document record contents request)
    (hid : request.canonicalId ∈ ids) (hnew : request.externalVersion ∉ accepted) :
    ∃ next, acceptVersion inbound request db (contents request.externalVersion)
        (db.mappings.lookup request.recordKey) (supersededKeys request db) = .ok next ∧
      Carries header next record (contents request.externalVersion).written := by
  have hrecord := hsends.record
  have hresource : request.resource = record.1 := congrArg Prod.fst hrecord
  have hinsert : db.mappings.lookup request.recordKey = none →
      header db.canon request.resource request.canonicalId = none := by
    intro hnone
    cases accepted with
    | nil => exact hresource ▸ (hfollows.unreceived rfl).fresh _ hid
    | cons version earlier =>
        obtain ⟨mapping, _, hmapping, -⟩ := hfollows.carried version rfl
        rw [hrecord, hmapping] at hnone
        cases hnone
  have hupdate : ∀ mapping, db.mappings.lookup request.recordKey = some mapping →
      ∃ columns, header db.canon request.resource mapping.canonicalId = some columns := by
    intro mapping hmapping
    cases accepted with
    | nil =>
        rw [hrecord, (hfollows.unreceived rfl).unmapped] at hmapping
        cases hmapping
    | cons version earlier =>
        obtain ⟨found, columns, hfound, hheader, -⟩ := hfollows.carried version rfl
        rw [hrecord, hfound] at hmapping
        cases hmapping
        exact ⟨columns, hresource ▸ hheader⟩
  obtain ⟨canon, columns, hcanon, hheader, hholds⟩ := writeCanonical_takes htakes
    (contents request.externalVersion) hinsert hupdate
  have hunstored : Unstored request db :=
    unstored_of_lookup ((hfollows.storedVersion hrecord).mpr hnew)
  obtain ⟨mappings, hmappings⟩ := insertMapping_ok request db
  obtain ⟨staged, hstaged⟩ := insertStaged_ok (contents request.externalVersion)
    (canonicalIdOf request (db.mappings.lookup request.recordKey))
    (supersededKeys request db) hunstored
  have haccept : acceptVersion inbound request db (contents request.externalVersion)
      (db.mappings.lookup request.recordKey) (supersededKeys request db) =
        .ok ⟨staged, mappings, canon⟩ := by
    simp only [acceptVersion, hcanon, hmappings, hstaged, bind, Except.bind, pure, Except.pure]
  have hlookup := (acceptVersion_ok haccept).lookup rfl record
  rw [if_pos hrecord.symm] at hlookup
  exact ⟨_, haccept, _, columns, hlookup, hresource ▸ hheader, hholds⟩

/-- An accepted version takes the register. -/
theorem Follows.taken (hfollows : Follows header record ids contents db accepted)
    (hrecord : request.recordKey = record) (hnew : request.externalVersion ∉ accepted)
    (haccept : acceptVersion inbound request db (contents request.externalVersion)
      (db.mappings.lookup request.recordKey) (supersededKeys request db) = .ok next)
    (hcarries : Carries header next record (contents request.externalVersion).written) :
    Follows header record ids contents next (request.externalVersion :: accepted) := by
  have hwrites := acceptVersion_ok haccept
  have hnames := namesCurrent_supersededKeys request db
  refine ⟨?_, ?_, ?_, nofun⟩
  · intro version
    rw [List.mem_cons, ← hfollows.stored version]
    constructor
    · rintro ⟨row, hrow, hkey⟩
      rcases hwrites.mem_rows.mp hrow with ⟨old, hold, rfl⟩ | rfl
      · rw [supersededRow_versionKey] at hkey
        exact Or.inr ⟨old, hold, hkey⟩
      · exact Or.inl (congrArg Prod.snd hkey).symm
    · rintro (rfl | ⟨row, hrow, hkey⟩)
      · exact ⟨_, hwrites.mem_rows.mpr (Or.inr rfl), congrArg (·, _) hrecord⟩
      · refine ⟨_, hwrites.mem_rows.mpr (Or.inl ⟨row, hrow, rfl⟩), ?_⟩
        rw [supersededRow_versionKey]
        exact hkey
  · intro row hrow hsame
    rcases hwrites.mem_rows.mp hrow with ⟨old, hold, rfl⟩ | rfl
    · rw [supersededRow_recordKey] at hsame
      constructor
      · intro happlied
        exact (hnames.not_applied hold (hsame.trans hrecord.symm) happlied).elim
      · intro hversion
        have hstored : ∃ row ∈ db.staged.rows,
            row.versionKey = (record, request.externalVersion) := by
          have hkept : (supersededRow (supersededKeys request db) old).versionKey =
            old.versionKey := supersededRow_versionKey old
          refine ⟨old, hold, Prod.ext hsame ?_⟩
          exact (congrArg Prod.snd hkept).symm.trans (Option.some.inj hversion).symm
        exact (hnew ((hfollows.stored _).mp hstored)).elim
    · exact ⟨fun _ => rfl, fun _ => rfl⟩
  · rintro version hversion
    cases hversion
    exact hcarries

/-- The handler follows the register. -/
theorem postInbound_follows (hfollows : Follows header record ids contents db accepted)
    (htakes : Takes inbound.store header)
    (hsends : Sends inbound document record contents request)
    (hid : request.canonicalId ∈ ids) :
    Follows header record ids contents (postInbound inbound db request)
      (Register.offer (staleAgainst inbound.parsers document.versionCompare) accepted
        request.externalVersion) := by
  have hdocument := documentFor_eq hsends
  have hrecord := hsends.record
  by_cases hmem : request.externalVersion ∈ accepted
  · obtain ⟨stored, hstored⟩ := Option.ne_none_iff_exists'.mp
      (mt (hfollows.storedVersion hrecord).mp (not_not_intro hmem))
    rw [postInbound_of_stored hdocument hstored, Register.offer_of_mem hmem]
    exact hfollows
  · have hstored := (hfollows.storedVersion hrecord).mpr hmem
    have hcurrent := hfollows.currentVersion hrecord
    obtain ⟨next, haccept, hcarries⟩ := hfollows.accepts htakes hsends hid hmem
    have htaken := hfollows.taken hrecord hmem haccept hcarries
    cases accepted with
    | nil =>
        have hnone : currentVersion? request db = none := by
          simpa using hcurrent
        have hfresh : checkStale inbound request db document = .ok () := by
          rw [checkStale, hnone]
        rw [postInbound_of_accepted hdocument hstored hfresh (hsends.content db) haccept]
        exact htaken
    | cons version earlier =>
        obtain ⟨current, hfound, rfl⟩ := Option.map_eq_some_iff.mp hcurrent
        obtain ⟨hpass, hrefuse⟩ := checkStale_of_current inbound document hfound
        cases hstale : staleAgainst inbound.parsers document.versionCompare
            current.externalVersion request.externalVersion with
        | true =>
            obtain ⟨error, herror⟩ := hrefuse hstale
            rw [postInbound_of_stale hdocument hstored herror, Register.offer_stale hstale]
            exact hfollows
        | false =>
            rw [postInbound_of_accepted hdocument hstored (hpass hstale)
              (hsends.content db) haccept, Register.offer_fresh hmem hstale]
            exact htaken

/-- So does a run of deliveries. -/
theorem run_postInbound_follows (htakes : Takes inbound.store header)
    {requests : List (InboundRequest Source)}
    (hsends : ∀ request ∈ requests, Sends inbound document record contents request)
    (hids : ∀ request ∈ requests, request.canonicalId ∈ ids)
    (hfollows : Follows header record ids contents db accepted) :
    Follows header record ids contents (run (postInbound inbound) db requests)
      (run (Register.offer (staleAgainst inbound.parsers document.versionCompare)) accepted
        (requests.map InboundRequest.externalVersion)) := by
  induction requests generalizing db accepted with
  | nil => exact hfollows
  | cons request rest ih =>
      exact ih (fun other hother => hsends other (List.mem_cons_of_mem _ hother))
        (fun other hother => hids other (List.mem_cons_of_mem _ hother))
        (postInbound_follows hfollows htakes (hsends request List.mem_cons_self)
          (hids request List.mem_cons_self))

end Following

/-! ## When versions converge -/

/-- Some version is newer than every other. -/
def HasGreatest (parsers : VersionParsers) (strategy : VersionCompare)
    (versions : Finset String) : Prop :=
  ∃ greatest ∈ versions, ∀ version ∈ versions, version ≠ greatest →
    Outranks parsers strategy greatest version

variable {parsers : VersionParsers} {strategy : VersionCompare} {versions : Finset String}

theorem hasGreatest_iff_converges :
    HasGreatest parsers strategy versions ↔
      Register.Converges (staleAgainst parsers strategy) versions := by
  rw [Register.converges_iff, HasGreatest]
  apply exists_congr
  intro greatest
  apply and_congr_right
  intro _
  constructor
  · intro hgreatest version hversion hother
    exact stale_iff_outranks.mpr (hgreatest version hversion hother)
  · intro hgreatest version hversion hother
    exact stale_iff_outranks.mp (hgreatest version hversion hother)

theorem versionsConverge_of_register
    (hconverges : Register.Converges (staleAgainst parsers strategy) versions) :
    VersionsConverge parsers strategy versions := by
  obtain ⟨greatest, hgreatest, hruns⟩ := hconverges
  refine ⟨greatest, hgreatest, ?_⟩
  intro Source Canon inbound document header record contents requests db hparsers hstrategy
    htakes hsends hversions hunreceived
  have hfollows := run_postInbound_follows htakes hsends
    (fun request hrequest => List.mem_map_of_mem hrequest)
    (follows_of_unreceived hunreceived)
  rw [hparsers, hstrategy] at hfollows
  exact hfollows.carried greatest (hruns _ hversions)

variable {written : List (String × Value)} {columns : Columns}

/-! ## A feed that tells versions apart -/

namespace Memo

abbrev Tables := InboundResource → ℕ → Option Columns

/-- Columns after an `UPDATE`. -/
def write (columns : Columns) (written : List (String × Value)) : Columns :=
  written.foldl (fun columns entry => columns.set entry.1 entry.2) columns

def put (tables : Tables) (resource : InboundResource) (canonicalId : ℕ)
    (columns : Columns) : Tables :=
  fun other id => if other = resource ∧ id = canonicalId then some columns
    else tables other id

/-- Tables without constraints. -/
def store : CanonicalStore Tables where
  cancelExisting := fun _ canonicalId tables =>
    .ok (put tables .salesOrders canonicalId
      (write ((tables .salesOrders canonicalId).getD Keyed.empty) [("status", .text "CANCELLED")]))
  fraudReview := fun _ _ => false
  insert := fun resource canonicalId written tables =>
    .ok (put tables resource canonicalId (write Keyed.empty written))
  update := fun resource canonicalId written tables =>
    .ok (put tables resource canonicalId
      (write ((tables resource canonicalId).getD Keyed.empty) written))
  writeLines := fun _ _ _ tables => .ok tables

/-- The one column is what the source sent. -/
def document (strategy : VersionCompare) : MappingDocument String where
  versionCompare := strategy
  fieldSet := fun _ => ["memo"]
  applyMapping := fun _ memo _ => .ok ⟨⟨[("memo", .text memo)], List.nodup_singleton _⟩, []⟩

def app (parsers : VersionParsers) (strategy : VersionCompare) :
    InboundApp String Tables where
  registry := fun _ => some (document strategy)
  parsers := parsers
  store := store

/-- A customer whose memo is the version. -/
def request (version : String) : InboundRequest String where
  ctx := ⟨"shop", false, false, [], 0, 0⟩
  resource := .customers
  token := ⟨"shop", false, [], []⟩
  externalId := "C-1"
  externalVersion := version
  sourcePayload := version
  bodyOverrides := false
  canonicalId := 1
  receivedAt := 0

def record : SourceKey := (.customers, "shop", "C-1")

def content (version : String) : MappedPayload where
  payload := ⟨⟨[("memo", .text version)], List.nodup_singleton _⟩, []⟩
  fieldSet := ["memo"]

theorem get_set (columns : Columns) (column : String) (value : Value) (other : String) :
    (columns.set column value).get other =
      if other = column then value else columns.get other := by
  rw [Columns.get, Columns.set, Keyed.lookup_upsert]
  by_cases hsame : other = column
  · rw [if_pos hsame, if_pos hsame]
    cases columns.lookup other <;> rfl
  · rw [if_neg hsame, if_neg hsame]
    rfl

theorem get_write_of_notMem {column : String} (hother : column ∉ written.map Prod.fst) :
    (write columns written).get column = columns.get column := by
  induction written generalizing columns with
  | nil => rfl
  | cons entry rest ih =>
      rw [List.map_cons, List.mem_cons, not_or] at hother
      change (write (columns.set entry.1 entry.2) rest).get column = _
      rw [ih hother.2, get_set, if_neg hother.1]

theorem holds_write (hnodup : (written.map Prod.fst).Nodup) :
    (write columns written).Holds written := by
  induction written generalizing columns with
  | nil => exact nofun
  | cons entry rest ih =>
      rw [List.map_cons, List.nodup_cons] at hnodup
      intro found hfound
      change (write (columns.set entry.1 entry.2) rest).get found.1 = _
      rcases List.mem_cons.mp hfound with rfl | hlater
      · rw [get_write_of_notMem hnodup.1, get_set, if_pos rfl]
      · exact ih hnodup.2 found hlater

theorem put_same (tables : Tables) (resource : InboundResource) (canonicalId : ℕ)
    (columns : Columns) :
    put tables resource canonicalId columns resource canonicalId = some columns :=
  if_pos ⟨rfl, rfl⟩

theorem store_takes : Takes store id where
  cancels := fun _ _ _ _ _ => ⟨_, _, rfl, put_same _ _ _ _⟩
  notHeld := fun _ _ => rfl
  inserts := fun _ _ _ _ hnodup _ => ⟨_, _, rfl, put_same _ _ _ _, holds_write hnodup⟩
  updates := fun _ _ _ _ _ hnodup _ => ⟨_, _, rfl, put_same _ _ _ _, holds_write hnodup⟩
  takesLines := fun _ _ _ _ _ hheader => ⟨_, rfl, hheader⟩

theorem sends (parsers : VersionParsers) (strategy : VersionCompare) (version : String) :
    Sends (app parsers strategy) (document strategy) record content (request version) where
  record := rfl
  loaded := rfl
  noOverrides := rfl
  content := fun _ => rfl

theorem written_content (version : String) :
    (content version).written = [("memo", .text version)] := by
  simp [content, MappedPayload.written]

/-- A memo tells which version it is. -/
theorem version_of_carries {db : InboundDb Tables} {version other : String}
    (hversion : Carries id db record (content version).written)
    (hother : Carries id db record (content other).written) : version = other := by
  obtain ⟨mapping, columns, hmapping, hheader, hholds⟩ := hversion
  obtain ⟨mapping', columns', hmapping', hheader', hholds'⟩ := hother
  obtain rfl : mapping = mapping' := Option.some.inj (hmapping.symm.trans hmapping')
  obtain rfl : columns = columns' := Option.some.inj (hheader.symm.trans hheader')
  rw [written_content] at hholds hholds'
  have hmemo := hholds _ (List.mem_singleton_self _)
  rw [hholds' _ (List.mem_singleton_self _)] at hmemo
  exact (Value.text.inj hmemo).symm

end Memo

/-- What the memo ends with is what the register ends with. -/
theorem register_of_versionsConverge (hconverges : VersionsConverge parsers strategy versions) :
    Register.Converges (staleAgainst parsers strategy) versions := by
  obtain ⟨greatest, hgreatest, hruns⟩ := hconverges
  refine ⟨greatest, hgreatest, ?_⟩
  intro deliveries hdeliveries
  let db : InboundDb Memo.Tables := ⟨Keyed.empty, Keyed.empty, fun _ _ => none⟩
  have hunreceived : Unreceived id Memo.record
      ((deliveries.map Memo.request).map InboundRequest.canonicalId) db :=
    ⟨nofun, rfl, fun _ _ => rfl⟩
  have hsends : ∀ request ∈ deliveries.map Memo.request,
      Sends (Memo.app parsers strategy) (Memo.document strategy) Memo.record Memo.content
        request := by
    intro request hrequest
    obtain ⟨version, -, rfl⟩ := List.mem_map.mp hrequest
    exact Memo.sends parsers strategy version
  have hsent : (deliveries.map Memo.request).map InboundRequest.externalVersion =
      deliveries := by
    rw [List.map_map]
    exact List.map_id _
  have hends := hruns String Memo.Tables (Memo.app parsers strategy) (Memo.document strategy)
    id Memo.record Memo.content (deliveries.map Memo.request) db rfl rfl Memo.store_takes
    hsends (hsent.symm ▸ hdeliveries) hunreceived
  have hstart : Follows id Memo.record
      ((deliveries.map Memo.request).map InboundRequest.canonicalId) Memo.content db [] :=
    follows_of_unreceived hunreceived
  have hfollows := run_postInbound_follows Memo.store_takes hsends
    (fun request hrequest => List.mem_map_of_mem hrequest) hstart
  rw [hsent] at hfollows
  change Follows id Memo.record _ Memo.content _
    (run (Register.offer (staleAgainst parsers strategy)) [] deliveries) at hfollows
  cases hhead : (run (Register.offer (staleAgainst parsers strategy)) [] deliveries).head?
    with
  | none =>
      obtain ⟨mapping, _, hmapping, -⟩ := hends
      have hunmapped := (hfollows.unreceived (List.head?_eq_none_iff.mp hhead)).unmapped
      rw [hunmapped] at hmapping
      cases hmapping
  | some version => rw [Memo.version_of_carries (hfollows.carried version hhead) hends]

/-- Versions converge exactly when one of them outranks every other. -/
theorem versions_converge_iff (parsers : VersionParsers) (strategy : VersionCompare)
    (versions : Finset String) :
    VersionsConverge parsers strategy versions ↔ HasGreatest parsers strategy versions := by
  rw [hasGreatest_iff_converges]
  exact ⟨register_of_versionsConverge, versionsConverge_of_register⟩

/-- `int` on the two numbers below. -/
def twoNumbers : VersionParsers where
  fromisoformat := fun _ => none
  int := fun text => if text = "10" then some 10 else if text = "9" then some 9 else none

/-- `10` is a larger number than `9`, `9` a larger string than `1x`, and `1x` a larger
string than `10`. -/
theorem versions_in_a_circle : ¬ VersionsConverge twoNumbers .integer {"10", "9", "1x"} := by
  rw [versions_converge_iff]
  rintro ⟨greatest, hgreatest, hothers⟩
  simp only [Finset.mem_insert, Finset.mem_singleton] at hgreatest
  rcases hgreatest with rfl | rfl | rfl
  · exact absurd (hothers "1x" (by decide) (by decide)) (by decide)
  · exact absurd (hothers "10" (by decide) (by decide)) (by decide)
  · exact absurd (hothers "9" (by decide) (by decide)) (by decide)

end SentryWms.Inbound

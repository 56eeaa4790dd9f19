import Mathlib.Data.List.MinMax
import Mathlib.Data.Rat.Defs
import SentryWms.Relational.Keyed
import SentryWms.Relational.Run
import SentryWms.Schema

/-!
# Records pushed by source systems

`handle_inbound`, the one handler behind the five inbound endpoints.  A request carries a
version of an external record; the handler keeps every accepted version in a staging
table, at most one of them applied, and writes the applied one through to the canonical
row the record is mapped to.  The source's mapping document turns a source payload into
canonical columns and is a parameter, as are the canonical tables themselves.
-/

namespace SentryWms.Inbound

open Relational

/-! ## Versions -/

/-- `version_compare` of a mapping document. -/
inductive VersionCompare
  | isoTimestamp
  | integer
  | lexicographic
  deriving DecidableEq, Repr

/-- A `datetime`, in microseconds: local time without an offset, UTC with one. -/
inductive IsoDatetime
  | naive (micros : ℤ)
  | aware (micros : ℤ)
  deriving DecidableEq, Repr

/-- `datetime.fromisoformat` and `int`, `none` where they raise `ValueError`. -/
structure VersionParsers where
  fromisoformat : String → Option IsoDatetime
  int : String → Option ℤ

/-- `server > incoming` on two `datetime` values. -/
def IsoDatetime.isAfter : IsoDatetime → IsoDatetime → Except ServiceError Bool
  | .naive server, .naive incoming => .ok (incoming < server)
  | .aware server, .aware incoming => .ok (incoming < server)
  | _, _ => .error (.runtimeError
      "can't compare offset-naive and offset-aware datetimes")

/-- `_is_newer`. -/
def isNewer (parsers : VersionParsers) (strategy : VersionCompare)
    (server incoming : String) : Except ServiceError Bool :=
  match strategy with
  | .isoTimestamp =>
      match parsers.fromisoformat server, parsers.fromisoformat incoming with
      | some serverTime, some incomingTime => serverTime.isAfter incomingTime
      | _, _ => .ok (incoming < server)
  | .integer =>
      match parsers.int server, parsers.int incoming with
      | some serverNumber, some incomingNumber => .ok (incomingNumber < serverNumber)
      | _, _ => .ok (incoming < server)
  | .lexicographic => .ok (incoming < server)

/-! ## Payloads -/

/-- A canonical value; a path with several matches gives a list, which no header column
takes. -/
inductive Value
  | null
  | boolean (value : Bool)
  | number (value : ℚ)
  | text (value : String)
  | several
  deriving DecidableEq

/-- Python's truth of a value. -/
def Value.isTruthy : Value → Bool
  | .null => false
  | .boolean value => value
  | .number value => value ≠ 0
  | .text value => value ≠ ""
  | .several => true

/-- A `dict` of columns. -/
abbrev Columns := Keyed (String × Value) Prod.fst

def Columns.get (columns : Columns) (column : String) : Value :=
  (columns.lookup column).elim .null Prod.snd

def Columns.set (columns : Columns) (column : String) (value : Value) : Columns :=
  columns.upsert (column, value) (fun _ => (column, value)) fun _ _ => rfl

/-- A line of the payload: the item by its canonical id, and what the source sent. -/
structure InboundLine where
  itemId : Option ℕ
  quantityOrdered : Option ℤ
  lineNumber : Option ℤ
  deriving DecidableEq, Repr

/-- `canonical_payload`. -/
structure CanonicalPayload where
  columns : Columns
  lines : List InboundLine

/-! ## Documents, tokens and requests -/

inductive InboundResource
  | salesOrders
  | items
  | customers
  | vendors
  | purchaseOrders
  deriving DecidableEq, Repr

/-- `sales_orders` and `purchase_orders` have a warehouse. -/
def InboundResource.hasWarehouse : InboundResource → Bool
  | .salesOrders | .purchaseOrders => true
  | _ => false

/-- `(source_system, type, source_id)` of a cross-system mapping. -/
abbrev SourceKey := InboundResource × String × String

instance stagedKeys : LawfulBEq (SourceKey × String) := inferInstance

/-- A mapping document: `apply` with its lookup function, and the declared columns. -/
structure MappingDocument (Source : Type) where
  versionCompare : VersionCompare
  fieldSet : InboundResource → List String
  applyMapping : InboundResource → Source → (SourceKey → Option ℕ) →
    Except ServiceError CanonicalPayload

structure WmsToken where
  sourceSystem : String
  mappingOverride : Bool
  mappingOverrides : List (String × Value)
  warehouseIds : List ℕ
  deriving DecidableEq

/-- The request, with the `uuid4` its canonical row takes if it is the first. -/
structure InboundRequest (Source : Type) where
  ctx : RequestContext
  resource : InboundResource
  token : WmsToken
  externalId : String
  externalVersion : String
  sourcePayload : Source
  bodyOverrides : Bool
  canonicalId : ℕ
  receivedAt : ℕ

variable {Source Canon : Type}

def InboundRequest.recordKey (request : InboundRequest Source) : SourceKey :=
  (request.resource, request.token.sourceSystem, request.externalId)

def InboundRequest.versionKey (request : InboundRequest Source) : SourceKey × String :=
  (request.recordKey, request.externalVersion)

/-- The static overrides of a token with the capability. -/
def WmsToken.overrides (token : WmsToken) : List (String × Value) :=
  if token.mappingOverride then token.mappingOverrides else []

/-! ## Tables -/

inductive StagedStatus
  | applied
  | superseded
  deriving DecidableEq, Repr

/-- A row of the staging table of its resource. -/
structure StagedVersion where
  recordKey : SourceKey
  externalVersion : String
  canonicalId : ℕ
  canonicalPayload : CanonicalPayload
  status : StagedStatus
  receivedAt : ℕ

/-- `(source_system, external_id, external_version)`, unique in each staging table. -/
def StagedVersion.versionKey (row : StagedVersion) : SourceKey × String :=
  (row.recordKey, row.externalVersion)

structure CrossSystemMapping where
  recordKey : SourceKey
  canonicalId : ℕ
  deriving DecidableEq, Repr

structure InboundDb (Canon : Type) where
  staged : Keyed StagedVersion StagedVersion.versionKey
  mappings : Keyed CrossSystemMapping CrossSystemMapping.recordKey
  canon : Canon

/-- What the handler asks of the canonical tables: the inbound cancel of a sales order,
the fraud heuristic, the header write, and the write-through of lines. -/
structure CanonicalStore (Canon : Type) where
  cancelExisting : RequestContext → ℕ → Canon → Except ServiceError Canon
  fraudReview : List (String × Value) → Canon → Bool
  insert : InboundResource → ℕ → List (String × Value) → Canon → Except ServiceError Canon
  update : InboundResource → ℕ → List (String × Value) → Canon → Except ServiceError Canon
  writeLines : InboundResource → ℕ → List InboundLine → Canon → Except ServiceError Canon

/-- What the application has loaded. -/
structure InboundApp (Source Canon : Type) where
  registry : String → Option (MappingDocument Source)
  parsers : VersionParsers
  store : CanonicalStore Canon

/-! ## The steps of the handler -/

section Steps

variable (inbound : InboundApp Source Canon) (request : InboundRequest Source)
  (db : InboundDb Canon)

/-- The checks before the first statement. -/
def documentFor : Except ServiceError (MappingDocument Source) := do
  require (request.bodyOverrides = false) (.httpError 403 "mapping_overrides_not_supported_in_body")
  orThrow (inbound.registry request.token.sourceSystem)
    (.httpError 503 "mapping_document_not_loaded")

/-- Step 2: the version was accepted before. -/
def storedVersion? : Option StagedVersion := db.staged.lookup request.versionKey

def isCurrent (row : StagedVersion) : Bool :=
  row.recordKey = request.recordKey ∧ row.status = .applied

/-- Step 3: `ORDER BY received_at DESC LIMIT 1` of the applied rows. -/
def currentVersion? : Option StagedVersion :=
  (db.staged.rows.filter (isCurrent request)).argmax StagedVersion.receivedAt

def checkStale (document : MappingDocument Source) : Except ServiceError Unit :=
  match currentVersion? request db with
  | none => .ok ()
  | some current => do
      let stale ← isNewer inbound.parsers document.versionCompare current.externalVersion
        request.externalVersion
      require (stale = false) (.httpError 409 "stale_version")

/-- The canonical payload, with the columns that may be written. -/
structure MappedPayload where
  payload : CanonicalPayload
  fieldSet : List String

/-- `warehouse_id` falls back to the token's first warehouse. -/
def MappedPayload.withWarehouse (mapped : MappedPayload) : MappedPayload :=
  match request.token.warehouseIds with
  | [] => mapped
  | warehouseId :: _ =>
      if request.resource.hasWarehouse ∧
          (mapped.payload.columns.get "warehouse_id").isTruthy = false then
        { payload :=
            { mapped.payload with
              columns := mapped.payload.columns.set "warehouse_id" (.number warehouseId) }
          fieldSet := "warehouse_id" :: mapped.fieldSet }
      else mapped

/-- Step 4: the mapping, the overrides and the warehouse. -/
def mapPayload (document : MappingDocument Source) : Except ServiceError MappedPayload := do
  let mapped ← document.applyMapping request.resource request.sourcePayload
    fun key => (db.mappings.lookup key).map CrossSystemMapping.canonicalId
  let overridden := request.token.overrides.foldl
    (fun columns override => columns.set override.1 override.2) mapped.columns
  pure (MappedPayload.withWarehouse request
    { payload := { mapped with columns := overridden }
      fieldSet := document.fieldSet request.resource ++ request.token.overrides.map Prod.fst })

/-- `write_payload`: the declared columns, lists excluded. -/
def MappedPayload.written (mapped : MappedPayload) : List (String × Value) :=
  mapped.payload.columns.rows.filter fun entry => entry.1 ∈ mapped.fieldSet ∧ entry.2 ≠ .several

/-- The source has cancelled the order. -/
def MappedPayload.cancels (mapped : MappedPayload) : Bool :=
  request.resource = .salesOrders ∧ mapped.payload.columns.get "status" = .text "CANCELLED"

/-- A first receipt the fraud heuristic holds is inserted in `FRAUD_REVIEW`. -/
def withFraudReview (written : List (String × Value)) (canon : Canon) : List (String × Value) :=
  if request.resource = .salesOrders ∧ inbound.store.fraudReview written canon then
    ("status", .text "FRAUD_REVIEW") :: written.filter fun entry => entry.1 ≠ "status"
  else written

/-- Steps 5 to 6.5, on the canonical tables: the cancel, the header and the lines. -/
def writeCanonical (mapped : MappedPayload) (mapping? : Option CrossSystemMapping)
    (canon : Canon) : Except ServiceError Canon :=
  match mapping? with
  | none => do
      let inserted ← inbound.store.insert request.resource request.canonicalId
        (withFraudReview inbound request mapped.written canon) canon
      inbound.store.writeLines request.resource request.canonicalId mapped.payload.lines inserted
  | some mapping => do
      let cancelled ←
        if mapped.cancels request then
          inbound.store.cancelExisting request.ctx mapping.canonicalId canon
        else .ok canon
      let updated ←
        if mapped.written = [] then .ok cancelled
        else
          inbound.store.update request.resource mapping.canonicalId mapped.written cancelled
      inbound.store.writeLines request.resource mapping.canonicalId mapped.payload.lines updated

/-- The canonical row of the record. -/
def canonicalIdOf (mapping? : Option CrossSystemMapping) : ℕ :=
  mapping?.elim request.canonicalId CrossSystemMapping.canonicalId

/-- `INSERT INTO cross_system_mappings`, on a first receipt. -/
def insertMapping (mapping? : Option CrossSystemMapping) :
    Except ServiceError (Keyed CrossSystemMapping CrossSystemMapping.recordKey) :=
  match mapping? with
  | some _ => .ok db.mappings
  | none =>
      let mapping : CrossSystemMapping := ⟨request.recordKey, request.canonicalId⟩
      if hfree : db.mappings.lookup mapping.recordKey = none then
        .ok (db.mappings.insertNew mapping hfree)
      else .error (.integrityError "cross_system_mappings_source_unique")

/-- The rows the superseding `UPDATE` finds. -/
def supersededKeys : List (SourceKey × String) :=
  (db.staged.rows.filter (isCurrent request)).map StagedVersion.versionKey

def supersede (keys : List (SourceKey × String)) : Keyed StagedVersion StagedVersion.versionKey :=
  db.staged.modify (fun row => row.versionKey ∈ keys)
    (fun row => { row with status := .superseded }) fun _ => rfl

def stagedRow (mapped : MappedPayload) (canonicalId : ℕ) : StagedVersion where
  recordKey := request.recordKey
  externalVersion := request.externalVersion
  canonicalId := canonicalId
  canonicalPayload := mapped.payload
  status := .applied
  receivedAt := request.receivedAt

/-- Step 7: `INSERT INTO inbound_...`, behind its unique index. -/
def insertStaged (mapped : MappedPayload) (canonicalId : ℕ)
    (staged : Keyed StagedVersion StagedVersion.versionKey) :
    Except ServiceError (Keyed StagedVersion StagedVersion.versionKey) :=
  let row := stagedRow request mapped canonicalId
  if hfree : staged.lookup row.versionKey = none then .ok (staged.insertNew row hfree)
  else .error (.integrityError "inbound_idempotency")

/-- What an accepted request leaves. -/
def acceptVersion (mapped : MappedPayload) (mapping? : Option CrossSystemMapping)
    (keys : List (SourceKey × String)) : Except ServiceError (InboundDb Canon) := do
  let canon ← writeCanonical inbound request mapped mapping? db.canon
  let mappings ← insertMapping request db mapping?
  let staged ← insertStaged request mapped (canonicalIdOf request mapping?) (supersede db keys)
  pure ⟨staged, mappings, canon⟩

end Steps

inductive InboundAnswer
  | repeated (canonicalId : ℕ)
  | accepted (canonicalId : ℕ)
  | refused (error : ServiceError)
  deriving DecidableEq, Repr

/-- `handle_inbound`, alone with the database. -/
def handleInbound (inbound : InboundApp Source Canon) (request : InboundRequest Source)
    (db : InboundDb Canon) : Except ServiceError (InboundDb Canon × InboundAnswer) := do
  let document ← documentFor inbound request
  match storedVersion? request db with
  | some stored => pure (db, .repeated stored.canonicalId)
  | none => do
      checkStale inbound request db document
      let mapped ← mapPayload request db document
      let mapping? := db.mappings.lookup request.recordKey
      let next ← acceptVersion inbound request db mapped mapping? (supersededKeys request db)
      pure (next, .accepted (canonicalIdOf request mapping?))

/-- The route: an accepted request is committed, any other leaves no trace. -/
def postInbound (inbound : InboundApp Source Canon) (db : InboundDb Canon)
    (request : InboundRequest Source) : InboundDb Canon :=
  match handleInbound inbound request db with
  | .ok (next, _) => next
  | .error _ => db

end SentryWms.Inbound

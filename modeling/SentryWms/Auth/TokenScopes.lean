import SentryWms.Auth.TokenCache

/-!
# What a token may reach

A token is issued with four scope columns, and an edit may replace two of them.  The
decorator asks one branch of rules, chosen by the endpoint or the path of the request.
-/

namespace SentryWms.Auth

open Relational

/-! ## The slugs -/

/-- `V150_ENDPOINT_SLUGS`. -/
def outboundEndpointSlugs : List (String × String) :=
  [("events.poll", "polling.poll_events"), ("events.ack", "polling.ack_cursor"),
   ("events.types", "polling.list_event_types"),
   ("events.schema", "polling.serve_schema"),
   ("snapshot.inventory", "snapshot.snapshot_inventory")]

/-- `V170_INBOUND_RESOURCE_BY_ENDPOINT`. -/
def inboundResourceByEndpoint : List (String × String) :=
  [("inbound.post_sales_orders", "sales_orders"), ("inbound.post_items", "items"),
   ("inbound.post_customers", "customers"),
   ("inbound.post_vendors", "vendors"),
   ("inbound.post_purchase_orders", "purchase_orders"),
   ("inbound.post_inventory_update", "inventory_update")]

/-- `V190_DOCKD_SLUG`. -/
def dockdSlug : String := "dockd.dispatch"

/-- `_V190_DOCKD_FLASK_ENDPOINTS`. -/
def dockdFlaskEndpoints : List String :=
  ["dockd.get_order", "dockd.ship_order", "dockd.void_ship", "dockd.get_item"]

/-- `V1100_POS_SLUG`. -/
def posSlug : String := "pos.dispatch"

/-- `_V1100_POS_FLASK_ENDPOINTS`. -/
def posFlaskEndpoints : List String :=
  ["pos.availability", "pos.sales_order_lookup", "pos.validate_cart", "pos.checkout",
   "pos.refund", "pos.reference_orders"]

/-- `V1380_SITEGIANT_SLUG`. -/
def sitegiantSlug : String := "sitegiant.capture"

/-- `_V1380_SITEGIANT_FLASK_ENDPOINTS`. -/
def sitegiantFlaskEndpoints : List String :=
  ["work_control.capture_sitegiant_workload", "work_control.sync_sitegiant_skus"]

/-- `_KNOWN_ENDPOINT_SLUGS`. -/
def knownEndpointSlugs : List String :=
  outboundEndpointSlugs.map Prod.fst ++ [dockdSlug, posSlug, sitegiantSlug]

/-- `_INBOUND_RESOURCE_KEYS`. -/
def inboundResourceKeys : List String := inboundResourceByEndpoint.map Prod.snd

/-! ## Tokens -/

/-- The columns of `wms_tokens` that issue and edit write. -/
structure TokenScope where
  tokenName : String
  warehouseIds : List ℤ
  eventTypes : List String
  endpoints : List String
  connectorId : Option String
  sourceSystem : Option String
  inboundResources : List String
  mappingOverride : Bool
  mappingOverrides : List (String × String)
  expiresAt : ℕ
  deriving DecidableEq, Repr

/-- `bool(source_system)`. -/
def truthy (text : Option String) : Bool := text.any fun value => value ≠ ""

/-- No inbound marker and no outbound marker. -/
def TokenScope.unmarked (scope : TokenScope) : Bool :=
  !truthy scope.sourceSystem && scope.inboundResources.isEmpty && scope.eventTypes.isEmpty

/-! ## Issue and edit -/

/-- What a validator finds wrong with a field. -/
inductive ScopeError
  | stringTooShort
  | stringTooLong
  | listTooLong
  | endpointsEmpty
  | unknownEndpointSlugs (unknown : List String)
  | unknownInboundResources (unknown : List String)
  | noDirection
  | halfInbound
  | overrideWithoutInbound
  | overridesWithoutCapability
  | overrideKeyEmpty
  | overrideKeyShape (key : String)
  deriving DecidableEq, Repr

/-- `CreateTokenRequest`. -/
structure CreateTokenRequest where
  tokenName : String
  warehouseIds : List ℤ := []
  eventTypes : List String := []
  endpoints : List String := []
  connectorId : Option String := none
  expiresAt : Option ℕ := none
  sourceSystem : Option String := none
  inboundResources : List String := []
  mappingOverride : Bool := false
  mappingOverrides : List (String × String) := []
  deriving DecidableEq, Repr

/-- `UpdateTokenRequest`. -/
structure UpdateTokenRequest where
  tokenName : Option String := none
  warehouseIds : Option (List ℤ) := none
  eventTypes : Option (List String) := none
  endpoints : Option (List String) := none
  expiresAt : Option ℕ := none
  deriving DecidableEq, Repr

/-- `sorted({s for s in v if s not in known})`. -/
def unknownOf (known values : List String) : List String :=
  ((values.filter fun value => value ∉ known).dedup).mergeSort fun left right =>
    decide (left ≤ right)

/-- The length bounds of a text. -/
def checkText (least most : ℕ) (value : String) : Option ScopeError :=
  if value.length < least then some .stringTooShort
  else if most < value.length then some .stringTooLong
  else none

def checkLength (most : ℕ) (values : List String) : Option ScopeError :=
  if most < values.length then some .listTooLong else none

/-- `_known_slugs_only`. -/
def knownSlugsOnly (values : List String) : Option ScopeError :=
  if values.all (· ∈ knownEndpointSlugs) then none
  else some (.unknownEndpointSlugs (unknownOf knownEndpointSlugs values))

/-- `_known_inbound_resources_only`. -/
def knownInboundResourcesOnly (values : List String) : Option ScopeError :=
  if values.all (· ∈ inboundResourceKeys) then none
  else some (.unknownInboundResources (unknownOf inboundResourceKeys values))

/-- The fields, each with the first of its checks that fails. -/
def checkFields (checks : List (String × Option ScopeError)) :
    Except (List (String × ScopeError)) Unit :=
  match checks.filterMap fun check => check.2.map fun error => (check.1, error) with
  | [] => .ok ()
  | errors => .error errors

section Issue

variable (isAlnum : String → Bool)

/-- The shape of the keys of `mapping_overrides`. -/
def checkOverrideKeys : List (String × String) → Except ScopeError Unit
  | [] => .ok ()
  | (key, _) :: rest =>
      if key = "" then .error .overrideKeyEmpty
      else if !isAlnum (key.replace "_" "") then .error (.overrideKeyShape key)
      else checkOverrideKeys rest

/-- `_at_least_one_direction`. -/
def atLeastOneDirection (request : CreateTokenRequest) : Except ScopeError Unit := do
  let outbound := !request.endpoints.isEmpty
  let inbound := truthy request.sourceSystem && !request.inboundResources.isEmpty
  require (outbound || inbound) .noDirection
  require (truthy request.sourceSystem = !request.inboundResources.isEmpty) .halfInbound
  require (request.mappingOverride → request.inboundResources ≠ []) .overrideWithoutInbound
  require (request.mappingOverrides ≠ [] → request.mappingOverride) .overridesWithoutCapability
  checkOverrideKeys isAlnum request.mappingOverrides

/-- The validation of a `CreateTokenRequest`: the model validator runs when every field
has passed. -/
def CreateTokenRequest.validate (request : CreateTokenRequest) :
    Except (List (String × ScopeError)) Unit := do
  checkFields
    [("token_name", checkText 1 128 request.tokenName),
     ("event_types", checkLength 64 request.eventTypes),
     ("endpoints", checkLength 64 request.endpoints <|> knownSlugsOnly request.endpoints),
     ("connector_id", request.connectorId.bind (checkText 0 64)),
     ("source_system", request.sourceSystem.bind (checkText 0 64)),
     ("inbound_resources", checkLength 16 request.inboundResources <|>
        knownInboundResourcesOnly request.inboundResources)]
  (atLeastOneDirection isAlnum request).mapError fun error => [("", error)]

/-- The validation of an `UpdateTokenRequest`. -/
def UpdateTokenRequest.validate (request : UpdateTokenRequest) :
    Except (List (String × ScopeError)) Unit :=
  checkFields
    [("token_name", request.tokenName.bind (checkText 1 128)),
     ("event_types", request.eventTypes.bind (checkLength 64)),
     ("endpoints", request.endpoints.bind fun endpoints =>
        checkLength 64 endpoints <|>
        (if endpoints.isEmpty then some .endpointsEmpty else none) <|>
        knownSlugsOnly endpoints)]

/-- What the issuing route looks up. -/
structure ScopeCatalog where
  warehouses : List ℤ
  eventTypes : List String
  sourceSystems : List String
  connectors : List String
  /-- The columns of the canonical table of a resource, if it has one. -/
  columns : String → Option (List String)

/-- How the issuing route refuses. -/
inductive IssueError
  | validation (errors : List (String × ScopeError))
  | unknownWarehouseIds (missing : List ℤ)
  | unknownEventTypes (unknown : List String)
  | unknownSourceSystem (sourceSystem : String)
  | unknownMappingOverridesKeys (unknown : List String)
  | foreignKey
  deriving DecidableEq, Repr

/-- `_validate_override_keys_against_canonical`. -/
def unknownOverrideKeys (catalog : ScopeCatalog) (resources keys : List String) : List String :=
  if keys = [] then [] else unknownOf ((resources.filterMap catalog.columns).flatten) keys

/-- `create_token`; the column's default for `expires_at` is a year from now. -/
def createToken (catalog : ScopeCatalog) (tokenId inAYear : ℕ) (tokenHash : String)
    (request : CreateTokenRequest) : Except IssueError (TokenRow TokenScope) := do
  (request.validate isAlnum).mapError .validation
  require (∀ warehouseId ∈ request.warehouseIds, warehouseId ∈ catalog.warehouses)
    (.unknownWarehouseIds
      ((request.warehouseIds.filter (· ∉ catalog.warehouses)).dedup.mergeSort (· ≤ ·)))
  require (∀ eventType ∈ request.eventTypes, eventType ∈ catalog.eventTypes)
    (.unknownEventTypes (unknownOf catalog.eventTypes request.eventTypes))
  require (∀ source ∈ request.sourceSystem, source ≠ "" → source ∈ catalog.sourceSystems)
    (.unknownSourceSystem (request.sourceSystem.getD ""))
  let unknown := unknownOverrideKeys catalog request.inboundResources
    (request.mappingOverrides.map Prod.fst)
  require (unknown = []) (.unknownMappingOverridesKeys unknown)
  -- the columns reference the allowlist and the connectors
  require (∀ source ∈ request.sourceSystem, source ∈ catalog.sourceSystems) .foreignKey
  require (∀ connector ∈ request.connectorId, connector ∈ catalog.connectors) .foreignKey
  return {
    tokenId := tokenId
    tokenHash := tokenHash
    status := .active
    revokedAt := none
    scope := {
      tokenName := request.tokenName
      warehouseIds := request.warehouseIds
      eventTypes := request.eventTypes
      endpoints := request.endpoints
      connectorId := request.connectorId
      sourceSystem := request.sourceSystem
      inboundResources := request.inboundResources
      mappingOverride := request.mappingOverride
      mappingOverrides := request.mappingOverrides
      expiresAt := request.expiresAt.getD inAYear } }

/-- The fields an edit gives replace the token's. -/
def UpdateTokenRequest.apply (request : UpdateTokenRequest) (scope : TokenScope) : TokenScope :=
  { scope with
    tokenName := request.tokenName.getD scope.tokenName
    warehouseIds := request.warehouseIds.getD scope.warehouseIds
    eventTypes := request.eventTypes.getD scope.eventTypes
    endpoints := request.endpoints.getD scope.endpoints
    expiresAt := request.expiresAt.getD scope.expiresAt }

/-- A token that has been issued and then edited any number of times. -/
inductive Issued (catalog : ScopeCatalog) : TokenRow TokenScope → Prop
  | create {tokenId inAYear : ℕ} {tokenHash : String} {request : CreateTokenRequest}
      {token : TokenRow TokenScope}
      (hcreate : createToken isAlnum catalog tokenId inAYear tokenHash request = .ok token) :
      Issued catalog token
  | update {token : TokenRow TokenScope} {request : UpdateTokenRequest}
      (hissued : Issued catalog token) (hvalid : request.validate = .ok ()) :
      Issued catalog { token with scope := request.apply token.scope }

end Issue

/-! ## The decorator -/

/-- What the decorator reads of a request: `request.endpoint` and `request.path`. -/
structure ScopedRequest where
  endpoint : Option String
  path : String
  deriving DecidableEq, Repr

inductive Surface
  | inbound
  | outbound
  | dockd
  | pos
  | sitegiantCapture
  deriving DecidableEq, Repr

/-- `str.startswith`. -/
def startsWith (path start : String) : Bool := start.toList.isPrefixOf path.toList

/-- `_is_inbound_request`. -/
def isInboundRequest (request : ScopedRequest) : Bool :=
  (request.endpoint.any fun endpoint =>
    (inboundResourceByEndpoint.lookup endpoint).isSome) ||
  startsWith request.path "/api/v1/inbound/"

/-- `_is_outbound_request`. -/
def isOutboundRequest (request : ScopedRequest) : Bool :=
  (request.endpoint.any (· ∈ outboundEndpointSlugs.map Prod.snd)) ||
  startsWith request.path "/api/v1/events" || startsWith request.path "/api/v1/snapshot"

/-- `_is_dockd_request`. -/
def isDockdRequest (request : ScopedRequest) : Bool :=
  (request.endpoint.any (· ∈ dockdFlaskEndpoints)) ||
  startsWith request.path "/api/v1/dockd/"

/-- `_is_pos_request`. -/
def isPosRequest (request : ScopedRequest) : Bool :=
  (request.endpoint.any (· ∈ posFlaskEndpoints)) || startsWith request.path "/api/v1/pos/"

/-- `_is_sitegiant_capture_request`. -/
def isSitegiantCaptureRequest (request : ScopedRequest) : Bool :=
  (request.endpoint.any (· ∈ sitegiantFlaskEndpoints)) ||
  startsWith request.path "/api/work-control/sitegiant/"

/-- The branch a request takes. -/
def surfaceOf (request : ScopedRequest) : Option Surface :=
  if isInboundRequest request then some .inbound
  else if isOutboundRequest request then some .outbound
  else if isDockdRequest request then some .dockd
  else if isPosRequest request then some .pos
  else if isSitegiantCaptureRequest request then some .sitegiantCapture
  else none

structure Refusal where
  status : ℕ
  error : String
  deriving DecidableEq, Repr

def invalidToken : Refusal := ⟨401, "invalid_token"⟩

def crossDirection : Refusal := ⟨403, "cross_direction_scope_violation"⟩

def endpointScope : Refusal := ⟨403, "endpoint_scope_violation"⟩

def inboundResourceScope : Refusal := ⟨403, "inbound_resource_scope_violation"⟩

/-- The rules of the inbound branch. -/
def inboundScope (scope : TokenScope) (endpoint : Option String) : Except Refusal Unit :=
  if !truthy scope.sourceSystem || scope.inboundResources.isEmpty then
    .error crossDirection
  else
    match endpoint.bind fun endpoint => inboundResourceByEndpoint.lookup endpoint with
    | none => .error inboundResourceScope
    | some target =>
        if target ∈ scope.inboundResources then .ok () else .error inboundResourceScope

/-- The rules of the outbound branch. -/
def outboundScope (scope : TokenScope) (endpoint : Option String) : Except Refusal Unit :=
  if !scope.inboundResources.isEmpty && scope.eventTypes.isEmpty then .error crossDirection
  else if endpoint.any (· ∈ scope.endpoints.filterMap fun slug =>
      outboundEndpointSlugs.lookup slug) then .ok ()
  else .error endpointScope

/-- The rules of a surface that one slug covers. -/
def singleSlugScope (slug : String) (flaskEndpoints : List String) (scope : TokenScope)
    (endpoint : Option String) : Except Refusal Unit :=
  if truthy scope.sourceSystem || !scope.inboundResources.isEmpty ||
      !scope.eventTypes.isEmpty then .error crossDirection
  else if slug ∉ scope.endpoints then .error endpointScope
  else if endpoint.any (· ∈ flaskEndpoints) then .ok ()
  else .error endpointScope

/-- The rules of the dockd branch. -/
def dockdScope : TokenScope → Option String → Except Refusal Unit :=
  singleSlugScope dockdSlug dockdFlaskEndpoints

/-- The rules of the POS branch. -/
def posScope : TokenScope → Option String → Except Refusal Unit :=
  singleSlugScope posSlug posFlaskEndpoints

/-- The rules of the SiteGiant capture branch. -/
def sitegiantCaptureScope : TokenScope → Option String → Except Refusal Unit :=
  singleSlugScope sitegiantSlug sitegiantFlaskEndpoints

/-- The rules of the branch a request takes. -/
def surfaceScope (scope : TokenScope) (endpoint : Option String) :
    Option Surface → Except Refusal Unit
  | some .inbound => inboundScope scope endpoint
  | some .outbound => outboundScope scope endpoint
  | some .dockd => dockdScope scope endpoint
  | some .pos => posScope scope endpoint
  | some .sitegiantCapture => sitegiantCaptureScope scope endpoint
  | none => .error endpointScope

/-- `require_wms_token`, with the row that the header's hash finds. -/
def requireWmsToken (row : Option (TokenRow TokenScope)) (now : ℕ)
    (request : ScopedRequest) : Except Refusal Unit :=
  match row with
  | none => .error invalidToken
  | some token =>
      if token.status ≠ .active then .error invalidToken
      else if token.revokedAt.isSome then .error invalidToken
      else if token.scope.expiresAt < now then .error invalidToken
      else surfaceScope token.scope request.endpoint (surfaceOf request)

/-- The decorator lets the request through. -/
def Admits (token : TokenRow TokenScope) (now : ℕ) (request : ScopedRequest) : Prop :=
  requireWmsToken (some token) now request = .ok ()

/-- A token that reaches the dockd, POS or SiteGiant surface reaches no other surface. -/
def DirectionsExclusive (token : TokenRow TokenScope) : Prop :=
  ∀ surface ∈ [Surface.dockd, .pos, .sitegiantCapture], ∀ now request,
    surfaceOf request = some surface → Admits token now request →
      ∀ now' request' other, surfaceOf request' = some other → other ≠ surface →
        ¬ Admits token now' request'

/-- The slug that covers a surface by itself. -/
def Surface.slug : Surface → Option String
  | .dockd => some dockdSlug
  | .pos => some posSlug
  | .sitegiantCapture => some sitegiantSlug
  | .inbound => none
  | .outbound => none

/-- A token without markers that names the slug of such a surface names no other slug. -/
def NamesOneSurface (scope : TokenScope) : Prop :=
  scope.unmarked = true →
    ∀ slug ∈ [dockdSlug, posSlug, sitegiantSlug], slug ∈ scope.endpoints →
      ∀ named ∈ scope.endpoints, named = slug

variable {surface : Surface} {slug : String} {request : CreateTokenRequest}

/-! ## What a token that is let through carries -/

section Admits

variable {token : TokenRow TokenScope} {scope : TokenScope} {now : ℕ}
  {request : ScopedRequest} {endpoint : Option String} {slug : String}
  {flaskEndpoints : List String}

theorem admits_iff :
    Admits token now request ↔
      token.status = .active ∧ token.revokedAt = none ∧ now ≤ token.scope.expiresAt ∧
        surfaceScope token.scope request.endpoint (surfaceOf request) = .ok () := by
  rw [Admits, requireWmsToken]
  by_cases hactive : token.status = .active
  · by_cases hrevoked : token.revokedAt = none
    · by_cases hexpired : token.scope.expiresAt < now
      · simp [hactive, hrevoked, hexpired]
      · simp [hactive, hrevoked, hexpired, Nat.le_of_not_lt hexpired]
    · simp [hactive, hrevoked, Option.isSome_iff_ne_none]
  · simp [hactive]

theorem unmarked_iff :
    scope.unmarked = true ↔
      truthy scope.sourceSystem = false ∧ scope.inboundResources = [] ∧
        scope.eventTypes = [] := by
  simp [TokenScope.unmarked, and_assoc]

/-- A surface with one slug lets through what carries the slug and no marker. -/
theorem singleSlugScope_ok_iff :
    singleSlugScope slug flaskEndpoints scope endpoint = .ok () ↔
      scope.unmarked = true ∧ slug ∈ scope.endpoints ∧
        endpoint.any (· ∈ flaskEndpoints) = true := by
  rw [singleSlugScope, unmarked_iff]
  split
  · rename_i hmarked
    simp only [reduceCtorEq, false_iff]
    rintro ⟨⟨hsource, hresources, hevents⟩, -⟩
    simp [hsource, hresources, hevents] at hmarked
  · rename_i hunmarked
    have hplain : truthy scope.sourceSystem = false ∧ scope.inboundResources = [] ∧
        scope.eventTypes = [] := by
      simpa [and_assoc] using hunmarked
    split <;> [skip; split] <;> simp_all

/-- The inbound surface wants a source system. -/
theorem truthy_of_inboundScope (hok : inboundScope scope endpoint = .ok ()) :
    truthy scope.sourceSystem = true := by
  rw [inboundScope] at hok
  split at hok
  · cases hok
  · rename_i hmarked
    simp only [Bool.or_eq_true, Bool.not_eq_true', not_or, Bool.not_eq_false] at hmarked
    exact hmarked.1

/-- The outbound surface wants one of its slugs. -/
theorem names_of_outboundScope (hok : outboundScope scope endpoint = .ok ()) :
    ∃ slug ∈ scope.endpoints, (outboundEndpointSlugs.lookup slug).isSome = true := by
  rw [outboundScope] at hok
  split at hok
  · cases hok
  · split at hok
    · rename_i hnamed
      rw [Option.any_eq_true] at hnamed
      obtain ⟨found, -, hfound⟩ := hnamed
      rw [decide_eq_true_eq, List.mem_filterMap] at hfound
      obtain ⟨slug, hslug, hlookup⟩ := hfound
      exact ⟨slug, hslug, by rw [hlookup]; rfl⟩
    · cases hok

/-- What lets a token through to such a surface. -/
theorem names_of_admits (hslug : surface.slug = some slug)
    (hsurface : surfaceOf request = some surface) (hadmits : Admits token now request) :
    token.scope.unmarked = true ∧ slug ∈ token.scope.endpoints := by
  obtain ⟨-, -, -, hok⟩ := admits_iff.mp hadmits
  rw [hsurface] at hok
  cases surface <;> cases hslug <;>
    exact ⟨(singleSlugScope_ok_iff.mp hok).1, (singleSlugScope_ok_iff.mp hok).2.1⟩

theorem lookup_singleSlug : ∀ slug ∈ [dockdSlug, posSlug, sitegiantSlug],
    outboundEndpointSlugs.lookup slug = none := by
  decide

/-- A token that names one slug is let through to no other surface. -/
theorem not_admits_other (hslug : slug ∈ [dockdSlug, posSlug, sitegiantSlug])
    (hunmarked : token.scope.unmarked = true)
    (honly : ∀ named ∈ token.scope.endpoints, named = slug)
    (hsurface : surfaceOf request = some surface) (hother : surface.slug ≠ some slug) :
    ¬ Admits token now request := by
  intro hadmits
  obtain ⟨-, -, -, hok⟩ := admits_iff.mp hadmits
  rw [hsurface] at hok
  cases surface with
  | inbound =>
      have hsource := truthy_of_inboundScope hok
      rw [(unmarked_iff.mp hunmarked).1] at hsource
      cases hsource
  | outbound =>
      obtain ⟨named, hnamed, hlookup⟩ := names_of_outboundScope hok
      rw [honly named hnamed, lookup_singleSlug slug hslug] at hlookup
      cases hlookup
  | dockd | pos => exact hother (congrArg some (honly _ (names_of_admits rfl hsurface hadmits).2))
  | sitegiantCapture =>
      exact hother (congrArg some (honly _ (names_of_admits rfl hsurface hadmits).2))

end Admits

theorem singleSlug_covers : ∀ surface ∈ [Surface.dockd, .pos, .sitegiantCapture],
    ∃ slug ∈ [dockdSlug, posSlug, sitegiantSlug], surface.slug = some slug := by
  decide

/-- A slug covers one surface. -/
theorem slug_injective {other : Surface} (hsurface : surface.slug = some slug)
    (hother : other.slug = some slug) : surface = other := by
  have hsame : surface.slug = other.slug := hsurface.trans hother.symm
  have hcovered : surface.slug ≠ none := by simp [hsurface]
  clear hsurface hother
  cases surface <;> cases other <;>
    first | rfl | exact absurd hsame (by decide) | exact absurd rfl hcovered

/-! ## What a named slug opens -/

/-- A route of each slug. -/
def routes : List (String × Surface × ScopedRequest) :=
  [("events.poll", .outbound, ⟨some "polling.poll_events", "/api/v1/events/"⟩),
   ("events.ack", .outbound, ⟨some "polling.ack_cursor", "/api/v1/events/ack"⟩),
   ("events.types", .outbound, ⟨some "polling.list_event_types", "/api/v1/events/types"⟩),
   ("events.schema", .outbound,
    ⟨some "polling.serve_schema", "/api/v1/events/schema/ship.confirmed/1"⟩),
   ("snapshot.inventory", .outbound,
    ⟨some "snapshot.snapshot_inventory", "/api/v1/snapshot/inventory"⟩),
   (dockdSlug, .dockd, ⟨some "dockd.get_order", "/api/v1/dockd/orders/SO-1"⟩),
   (posSlug, .pos, ⟨some "pos.availability", "/api/v1/pos/availability"⟩),
   (sitegiantSlug, .sitegiantCapture,
    ⟨some "work_control.sync_sitegiant_skus", "/api/work-control/sitegiant/skus/sync"⟩)]

theorem routes_known : knownEndpointSlugs = routes.map Prod.fst := rfl

theorem routes_surface : ∀ entry ∈ routes, surfaceOf entry.2.2 = some entry.2.1 := by
  decide

/-- The slugs of the surfaces that one slug covers. -/
theorem routes_singleSlug : ∀ entry ∈ routes,
    entry.1 ∈ [dockdSlug, posSlug, sitegiantSlug] →
      entry.2.1 ∈ [Surface.dockd, .pos, .sitegiantCapture] ∧ entry.2.1.slug = some entry.1 := by
  decide

theorem routes_surface_injective : ∀ entry ∈ routes, ∀ other ∈ routes,
    entry.1 ∈ [dockdSlug, posSlug, sitegiantSlug] → other.1 ≠ entry.1 →
      other.2.1 ≠ entry.2.1 := by
  decide

theorem outboundScope_ok {scope : TokenScope} {endpoint : String}
    (hresources : scope.inboundResources = []) (hnamed : slug ∈ scope.endpoints)
    (hlookup : outboundEndpointSlugs.lookup slug = some endpoint) :
    outboundScope scope (some endpoint) = .ok () := by
  have hallowed : endpoint ∈ scope.endpoints.filterMap fun slug =>
      outboundEndpointSlugs.lookup slug :=
    List.mem_filterMap.mpr ⟨slug, hnamed, hlookup⟩
  rw [outboundScope, hresources]
  exact if_pos (decide_eq_true hallowed)

/-- A token without markers is let through wherever its slugs lead. -/
theorem admits_route {token : TokenRow TokenScope}
    {entry : String × Surface × ScopedRequest} (hactive : token.status = .active)
    (hrevoked : token.revokedAt = none) (hunmarked : token.scope.unmarked = true)
    (hnamed : entry.1 ∈ token.scope.endpoints) (hentry : entry ∈ routes) :
    Admits token 0 entry.2.2 := by
  rw [admits_iff, routes_surface entry hentry]
  refine ⟨hactive, hrevoked, Nat.zero_le _, ?_⟩
  have hresources := (unmarked_iff.mp hunmarked).2.1
  simp only [routes, List.mem_cons, List.not_mem_nil, or_false] at hentry
  obtain rfl | rfl | rfl | rfl | rfl | rfl | rfl | rfl := hentry
  · exact outboundScope_ok hresources hnamed rfl
  · exact outboundScope_ok hresources hnamed rfl
  · exact outboundScope_ok hresources hnamed rfl
  · exact outboundScope_ok hresources hnamed rfl
  · exact outboundScope_ok hresources hnamed rfl
  all_goals exact singleSlugScope_ok_iff.mpr ⟨hunmarked, hnamed, rfl⟩

/-! ## What issue and edits leave -/

/-- A token that can be used, and whose slugs are all known. -/
structure WellScoped (token : TokenRow TokenScope) : Prop where
  active : token.status = .active
  kept : token.revokedAt = none
  known : ∀ slug ∈ token.scope.endpoints, slug ∈ knownEndpointSlugs

theorem checkFields_ok {checks : List (String × Option ScopeError)}
    (hok : checkFields checks = .ok ()) {field : String} {found : Option ScopeError}
    (hcheck : (field, found) ∈ checks) : found = none := by
  rw [checkFields] at hok
  split at hok
  · rename_i hnone
    rw [List.filterMap_eq_nil_iff] at hnone
    have := hnone _ hcheck
    cases found with
    | none => rfl
    | some error => cases this
  · cases hok

theorem known_of_knownSlugsOnly {values : List String} (hok : knownSlugsOnly values = none) :
    ∀ slug ∈ values, slug ∈ knownEndpointSlugs := by
  rw [knownSlugsOnly] at hok
  split at hok
  · rename_i hall
    simpa using hall
  · cases hok

theorem orElse_eq_none {first second : Option ScopeError}
    (hnone : (first <|> second) = none) : second = none := by
  cases first with
  | none => exact hnone
  | some error => cases hnone

section Issue

variable {isAlnum : String → Bool} {catalog : ScopeCatalog} {token : TokenRow TokenScope}

theorem known_of_validate (hvalid : request.validate isAlnum = .ok ()) :
    ∀ slug ∈ request.endpoints, slug ∈ knownEndpointSlugs := by
  obtain ⟨_, hfields, -⟩ := bind_eq_ok.mp hvalid
  have hendpoints := checkFields_ok hfields
    (List.mem_cons_of_mem _ (List.mem_cons_of_mem _ List.mem_cons_self))
  exact known_of_knownSlugsOnly (orElse_eq_none hendpoints)

theorem mapError_eq_ok {First Second Value : Type} {outcome : Except First Value}
    {rename : First → Second} {value : Value} :
    outcome.mapError rename = .ok value ↔ outcome = .ok value := by
  cases outcome <;> simp [Except.mapError]

/-- An issued token can be used. -/
theorem WellScoped.of_createToken {tokenId inAYear : ℕ} {tokenHash : String}
    (hcreate : createToken isAlnum catalog tokenId inAYear tokenHash request = .ok token) :
    WellScoped token := by
  simp only [createToken, bind_eq_ok, mapError_eq_ok, require_eq_ok, pure_eq_ok] at hcreate
  obtain ⟨_, hvalid, _, -, _, -, _, -, _, -, _, -, _, -, rfl⟩ := hcreate
  exact ⟨rfl, rfl, known_of_validate hvalid⟩

/-- An edit replaces the slugs by known ones. -/
theorem WellScoped.update {request : UpdateTokenRequest} (hscoped : WellScoped token)
    (hvalid : request.validate = .ok ()) :
    WellScoped { token with scope := request.apply token.scope } where
  active := hscoped.active
  kept := hscoped.kept
  known := by
    intro slug hslug
    change slug ∈ request.endpoints.getD token.scope.endpoints at hslug
    have hendpoints := checkFields_ok hvalid
      (List.mem_cons_of_mem _ (List.mem_cons_of_mem _ List.mem_cons_self))
    cases hgiven : request.endpoints with
    | none =>
        rw [hgiven] at hslug
        exact hscoped.known slug hslug
    | some endpoints =>
        rw [hgiven] at hslug hendpoints
        exact known_of_knownSlugsOnly (orElse_eq_none (orElse_eq_none hendpoints)) slug hslug

theorem Issued.wellScoped (hissued : Issued isAlnum catalog token) : WellScoped token := by
  induction hissued with
  | create hcreate => exact .of_createToken hcreate
  | update _ hvalid ih => exact ih.update hvalid

/-- Directions are exclusive exactly for the tokens whose slugs stay on one surface. -/
theorem directions_exclusive_iff (hissued : Issued isAlnum catalog token) :
    DirectionsExclusive token ↔ NamesOneSurface token.scope := by
  have hscoped := hissued.wellScoped
  constructor
  · intro hexclusive hunmarked slug hslug hheld named hnamed
    have hroute : ∀ name ∈ token.scope.endpoints, ∃ entry ∈ routes, entry.1 = name := by
      intro name hname
      simpa only [routes_known, List.mem_map] using hscoped.known name hname
    obtain ⟨entry, hentry, rfl⟩ := hroute slug hheld
    obtain ⟨other, hother, rfl⟩ := hroute named hnamed
    by_contra hne
    apply hexclusive entry.2.1 (routes_singleSlug entry hentry hslug).1 0 entry.2.2
      (routes_surface entry hentry)
      (admits_route hscoped.active hscoped.kept hunmarked hheld hentry) 0 other.2.2
      other.2.1 (routes_surface other hother)
      (routes_surface_injective entry hentry other hother hslug hne)
    exact admits_route hscoped.active hscoped.kept hunmarked hnamed hother
  · intro hnames surface hnarrow now request hsurface hadmits now' request' other hother hne
    obtain ⟨slug, hslug, hcovers⟩ := singleSlug_covers surface hnarrow
    obtain ⟨hunmarked, hheld⟩ := names_of_admits hcovers hsurface hadmits
    apply not_admits_other hslug hunmarked (hnames hunmarked slug hslug hheld) hother
    intro hsame
    exact hne (slug_injective hsame hcovers)

end Issue

/-! ## Tokens -/

/-- A catalog with one warehouse. -/
def oneWarehouse : ScopeCatalog := ⟨[1], ["ship.confirmed"], [], [], fun _ => none⟩

/-- A token issued for the counters and for the packing stations. -/
def counterAndPacking : CreateTokenRequest where
  tokenName := "counter"
  warehouseIds := [1]
  endpoints := [posSlug, dockdSlug]

/-- A token issued for the counters alone. -/
def counterOnly : CreateTokenRequest where
  tokenName := "counter"
  warehouseIds := [1]
  endpoints := [posSlug]

def issuedScope (request : CreateTokenRequest) : TokenRow TokenScope where
  tokenId := 1
  tokenHash := "hash"
  status := .active
  revokedAt := none
  scope := ⟨request.tokenName, request.warehouseIds, request.eventTypes, request.endpoints,
    none, none, [], false, [], 1000⟩

theorem counterOnly_exclusive :
    createToken (fun _ => true) oneWarehouse 1 1000 "hash" counterOnly =
        .ok (issuedScope counterOnly) ∧
      DirectionsExclusive (issuedScope counterOnly) := by
  have hcreate : createToken (fun _ => true) oneWarehouse 1 1000 "hash" counterOnly =
      .ok (issuedScope counterOnly) := by
    decide
  refine ⟨hcreate, (directions_exclusive_iff (.create hcreate)).mpr ?_⟩
  intro _ slug hslug hheld named hnamed
  rw [List.mem_singleton.mp hheld, List.mem_singleton.mp hnamed]

/-- A token with two of the slugs reaches both surfaces. -/
theorem counterAndPacking_not_exclusive :
    createToken (fun _ => true) oneWarehouse 1 1000 "hash" counterAndPacking =
        .ok (issuedScope counterAndPacking) ∧
      requireWmsToken (some (issuedScope counterAndPacking)) 0
        ⟨some "pos.checkout", "/api/v1/pos/checkout"⟩ = .ok () ∧
      requireWmsToken (some (issuedScope counterAndPacking)) 0
        ⟨some "dockd.ship_order", "/api/v1/dockd/orders/SO-1/ship"⟩ = .ok () ∧
      ¬ ∀ (isAlnum : String → Bool) (catalog : ScopeCatalog) (token : TokenRow TokenScope),
        Issued isAlnum catalog token → DirectionsExclusive token := by
  have hcreate : createToken (fun _ => true) oneWarehouse 1 1000 "hash" counterAndPacking =
      .ok (issuedScope counterAndPacking) := by
    decide
  have hcounter : requireWmsToken (some (issuedScope counterAndPacking)) 0
      ⟨some "pos.checkout", "/api/v1/pos/checkout"⟩ = .ok () := by
    decide
  have hpacking : requireWmsToken (some (issuedScope counterAndPacking)) 0
      ⟨some "dockd.ship_order", "/api/v1/dockd/orders/SO-1/ship"⟩ = .ok () := by
    decide
  refine ⟨hcreate, hcounter, hpacking, ?_⟩
  intro hexclusive
  exact hexclusive _ _ _ (.create hcreate) .pos (by decide) 0 _ (by decide) hcounter 0 _ .dockd
    (by decide) (by decide) hpacking

end SentryWms.Auth

import Mathlib.Data.List.Dedup
import Mathlib.Data.List.ReduceOption
import SentryWms.Inbound.RequiredFields

/-!
# Prefetched line lookups

`handle_inbound` reads the cross-system mappings of all line fields in one query per
source before it runs the mapping, and serves the lookups of the lines from what it
read.  The prefetch resolves the path of every line field with a lookup, whether or not
the mapping would, and outside the handler's `try`.
-/

namespace SentryWms.Mapping

open Relational

/-! ## Queries -/

/-- `(source_system, source_type, source_id)`. -/
abbrev MappingKey := String × String × String

/-- `cross_system_mappings`: a canonical id under each key. -/
abbrev CrossSystemMappings := Keyed (MappingKey × ℕ) Prod.fst

/-- Whether the driver can send a text to the server; it raises a `ValueError` on one
with a NUL or an unpaired surrogate. -/
abbrev Sendable := String → Bool

variable (runtime : Runtime) (sendable : Sendable) (mappings : CrossSystemMappings)
  (document : MappingDocument)

def unsendable : MappingError :=
  .valueError "A string literal cannot contain NUL (0x00) characters."

/-- The texts of a query can be sent. -/
def checkSendable (texts : List String) : Except MappingError Unit :=
  if texts.all sendable then .ok () else .error unsendable

/-- `SELECT canonical_id ... WHERE source_system = :ss AND source_type = :st AND
source_id = :sid`. -/
def lookupRow : LookupFn := fun sourceSystem sourceType sourceId => do
  checkSendable sendable [sourceSystem, sourceType, sourceId]
  return (mappings.lookup (sourceSystem, sourceType, sourceId)).map Prod.snd

/-! ## The prefetch -/

/-- The line fields with a lookup. -/
def LineItemMapping.lookupFields (lineItems : LineItemMapping) :
    List (FieldMapping × CrossSystemLookup) :=
  lineItems.fields.filterMap fun field =>
    field.crossSystemLookup.map fun lookup => (field, lookup)

/-- The key one field of one block is looked up under, unless its path is missing. -/
def prefetchKey (block : PyValue) (entry : FieldMapping × CrossSystemLookup) :
    Except MappingError (Option MappingKey) := do
  let sourceId ← resolveJsonpath runtime entry.1.sourcePath block
  return if sourceId.isNone then none
    else some (entry.2.system document, entry.2.sourceType, runtime.str sourceId)

/-- The loop over the blocks and their lookup fields. -/
def prefetchKeys (fields : List (FieldMapping × CrossSystemLookup))
    (blocks : List PyValue) : Except MappingError (List MappingKey) := do
  let keys ← blocks.mapM fun block => fields.mapM (prefetchKey runtime document block)
  return keys.flatten.reduceOption

/-- `groups`: the keys by source system and type. -/
def keyGroups (keys : List MappingKey) : List (String × String) :=
  (keys.map fun key => (key.1, key.2.1)).dedup

/-- `sids` of a group. -/
def groupIds (keys : List MappingKey) (group : String × String) : List String :=
  ((keys.filter fun key => (key.1, key.2.1) = group).map fun key => key.2.2).dedup

/-- The cache: what is known of a key, if it was asked for. -/
abbrev LookupCache := List (MappingKey × Option ℕ)

/-- `SELECT source_id, canonical_id ... AND source_id = ANY(:sids)`. -/
def groupRows (group : String × String) (ids : List String) : List (MappingKey × ℕ) :=
  mappings.rows.filter fun row => (row.1.1, row.1.2.1) = group ∧ row.1.2.2 ∈ ids

/-- The query of one group, with a miss cached as `None`. -/
def fetchGroup (keys : List MappingKey) (group : String × String) :
    Except MappingError LookupCache := do
  let ids := groupIds keys group
  checkSendable sendable (group.1 :: group.2 :: ids)
  let rows := groupRows mappings group ids
  return ids.map fun id =>
    ((group.1, group.2, id),
      (rows.find? fun row => row.1.2.2 = id).map Prod.snd)

/-- The queries of all groups. -/
def fetchGroups (keys : List MappingKey) : Except MappingError LookupCache :=
  List.flatten <$> (keyGroups keys).mapM (fetchGroup sendable mappings keys)

/-- `_prefetch_line_lookups`. -/
def prefetchLineLookups (resourceKey : String) (payload : PyValue) :
    Except MappingError LookupCache :=
  match (document.resource resourceKey).bind ResourceMapping.lineItems with
  | none => .ok []
  | some lineItems =>
      if lineItems.lookupFields = [] then .ok []
      else do
        let blocks ← lineBlocks runtime lineItems payload
        let keys ← prefetchKeys runtime document lineItems.lookupFields blocks
        fetchGroups sendable mappings keys

/-- `_lookup`: the cache, else the single-row query. -/
def cachedLookup (cache : LookupCache) : LookupFn :=
  fun sourceSystem sourceType sourceId =>
    match cache.find? fun entry => entry.1 = (sourceSystem, sourceType, sourceId) with
    | some entry => .ok entry.2
    | none => lookupRow sendable mappings sourceSystem sourceType sourceId

/-! ## The mapping step -/

/-- What the step comes to: the canonical payload, one of the two rejections the handler
answers, or an exception it does not catch. -/
inductive MappingOutcome
  | payload (columns : Dict)
  | lookupMiss (sourceSystem sourceType sourceId : String)
  | applyError (message : String)
  | crash

/-- The `except` clauses around `apply`. -/
def outcomeOf : Except MappingError Dict → MappingOutcome
  | .ok columns => .payload columns
  | .error (.crossSystemLookupMiss sourceSystem sourceType sourceId) =>
      .lookupMiss sourceSystem sourceType sourceId
  | .error (.valueError message) => .applyError message
  | .error (.exception _) => .crash

/-- Step 4 of `handle_inbound`. -/
def mappingStep (resourceKey : String) (payload : PyValue) (override : Dict) : MappingOutcome :=
  match prefetchLineLookups runtime sendable mappings document resourceKey payload with
  | .error _ => .crash
  | .ok cache =>
      outcomeOf (apply runtime document (some (cachedLookup sendable mappings cache))
        resourceKey payload override)

/-- The same step with one query per lookup. -/
def mappingStepPerRow (resourceKey : String) (payload : PyValue) (override : Dict) :
    MappingOutcome :=
  outcomeOf (apply runtime document (some (lookupRow sendable mappings)) resourceKey
    payload override)

/-! ## Loops that may fail -/

section Loops

variable {Failure A B : Type} {f : A → Except Failure B}

theorem mapM_eq_ok_iff {inputs : List A} {outputs : List B} :
    inputs.mapM f = .ok outputs ↔
      List.Forall₂ (fun input output => f input = .ok output) inputs outputs := by
  induction inputs generalizing outputs with
  | nil =>
      rw [List.mapM_nil]
      constructor
      · intro hok
        cases hok
        exact .nil
      · intro hall
        cases hall
        rfl
  | cons input rest ih =>
      rw [List.mapM_cons]
      cases hfirst : f input with
      | error failure =>
          constructor
          · intro hok
            cases hok
          · intro hall
            cases hall with
            | cons hhead _ =>
                rw [hfirst] at hhead
                cases hhead
      | ok output =>
          cases hrest : rest.mapM f with
          | error failure =>
              constructor
              · intro hok
                cases hok
              · intro hall
                cases hall with
                | cons _ htail =>
                    rw [ih.mpr htail] at hrest
                    cases hrest
          | ok later =>
              constructor
              · intro hok
                cases hok
                exact .cons hfirst (ih.mp hrest)
              · intro hall
                cases hall with
                | cons hhead htail =>
                    rw [hfirst] at hhead
                    cases hhead
                    rw [ih.mpr htail] at hrest
                    cases hrest
                    rfl

/-- A loop succeeds exactly when every turn does. -/
theorem mapM_isOk_iff {inputs : List A} :
    (∃ outputs, inputs.mapM f = .ok outputs) ↔
      ∀ input ∈ inputs, ∃ output, f input = .ok output := by
  induction inputs with
  | nil => simp [List.mapM_nil, pure, Except.pure]
  | cons input rest ih =>
      rw [List.forall_mem_cons, ← ih]
      simp only [mapM_eq_ok_iff]
      constructor
      · rintro ⟨outputs, hall⟩
        cases hall with
        | cons hhead htail => exact ⟨⟨_, hhead⟩, _, htail⟩
      · rintro ⟨⟨output, hhead⟩, outputs, htail⟩
        exact ⟨output :: outputs, .cons hhead htail⟩

theorem mem_of_mapM_eq_ok {inputs : List A} {outputs : List B}
    (hok : inputs.mapM f = .ok outputs) {output : B} :
    output ∈ outputs ↔ ∃ input ∈ inputs, f input = .ok output := by
  have hall := mapM_eq_ok_iff.mp hok
  clear hok
  induction hall with
  | nil => simp
  | cons hhead _ ih => simp [ih, hhead, eq_comm]

end Loops

/-! ## What the cache holds -/

variable {runtime sendable mappings document} {keys : List MappingKey} {cache : LookupCache}

theorem lookupRow_of_sendable (key : MappingKey)
    (hsend : sendable key.1 = true ∧ sendable key.2.1 = true ∧ sendable key.2.2 = true) :
    lookupRow sendable mappings key.1 key.2.1 key.2.2 =
      .ok ((mappings.lookup key).map Prod.snd) := by
  obtain ⟨hsystem, htype, hid⟩ := hsend
  simp [lookupRow, checkSendable, hsystem, htype, hid, bind, Except.bind, pure, Except.pure]

variable {group : String × String} {resourceKey : String} {payload : PyValue}

/-- The rows of a group hold the mapping of each of its ids. -/
theorem groupRows_find? {ids : List String} {id : String} (hid : id ∈ ids) :
    (groupRows mappings group ids).find? (fun row => row.1.2.2 = id) =
      mappings.lookup (group.1, group.2, id) := by
  rw [groupRows, List.find?_filter, Keyed.lookup]
  congr 1
  funext row
  obtain ⟨⟨sourceSystem, sourceType, sourceId⟩, canonicalId⟩ := row
  by_cases hsame : sourceId = id
  · simp [hsame, hid, Prod.ext_iff]
  · simp [hsame, Prod.ext_iff]

/-- What a group's query caches is what the single-row query gives. -/
theorem fetchGroup_cached (hfetch : fetchGroup sendable mappings keys group = .ok cache) :
    ∀ entry ∈ cache, lookupRow sendable mappings entry.1.1 entry.1.2.1 entry.1.2.2 =
      .ok entry.2 := by
  rw [fetchGroup] at hfetch
  obtain ⟨_, hsend, hok⟩ := bind_eq_ok hfetch
  cases hok
  intro entry hentry
  obtain ⟨id, hid, rfl⟩ := List.mem_map.mp hentry
  have hall : (group.1 :: group.2 :: groupIds keys group).all sendable = true := by
    by_contra hnot
    rw [checkSendable, if_neg hnot] at hsend
    cases hsend
  have htexts := List.all_eq_true.mp hall
  rw [groupRows_find? hid]
  exact lookupRow_of_sendable (group.1, group.2, id)
    ⟨htexts _ (by simp), htexts _ (by simp), htexts _ (by simp [hid])⟩

/-- Served from the cache or not, a lookup gives what its own query gives. -/
theorem cachedLookup_eq (hfetch : fetchGroups sendable mappings keys = .ok cache) :
    cachedLookup sendable mappings cache = lookupRow sendable mappings := by
  funext sourceSystem sourceType sourceId
  rw [cachedLookup]
  cases hfound : cache.find? fun entry => entry.1 = (sourceSystem, sourceType, sourceId) with
  | none => rfl
  | some entry =>
      have hkey : entry.1 = (sourceSystem, sourceType, sourceId) := by
        simpa using List.find?_some hfound
      have hmem := List.mem_of_find?_eq_some hfound
      rw [fetchGroups] at hfetch
      cases hgroups : (keyGroups keys).mapM (fetchGroup sendable mappings keys) with
      | error failure =>
          rw [hgroups] at hfetch
          cases hfetch
      | ok groups =>
          rw [hgroups] at hfetch
          cases hfetch
          obtain ⟨cached, hcached, hentry⟩ := List.mem_flatten.mp hmem
          obtain ⟨group, -, hgroup⟩ := (mem_of_mapM_eq_ok hgroups).mp hcached
          have hrow := fetchGroup_cached hgroup entry hentry
          rw [hkey] at hrow
          exact hrow.symm

/-! ## Where the prefetch succeeds -/

/-- The three texts of a key can be sent. -/
def SendableKey (sendable : Sendable) (key : MappingKey) : Prop :=
  sendable key.1 = true ∧ sendable key.2.1 = true ∧ sendable key.2.2 = true

/-- Every lookup field of every block has a path that resolves, to nothing or to an id
that can be sent. -/
def Resolves (runtime : Runtime) (sendable : Sendable) (document : MappingDocument)
    (fields : List (FieldMapping × CrossSystemLookup)) (blocks : List PyValue) : Prop :=
  ∀ block ∈ blocks, ∀ entry ∈ fields, ∃ sourceId,
    resolveJsonpath runtime entry.1.sourcePath block = .ok sourceId ∧
      (sourceId ≠ .none → SendableKey sendable
        (entry.2.system document, entry.2.sourceType, runtime.str sourceId))

/-- The lines can be read ahead: there are no lookup fields, or the blocks resolve and so
do the lookup fields of each. -/
def CanPrefetch (runtime : Runtime) (sendable : Sendable) (document : MappingDocument)
    (resourceKey : String) (payload : PyValue) : Prop :=
  ∀ resource ∈ document.resource resourceKey, ∀ lineItems ∈ resource.lineItems,
    lineItems.lookupFields ≠ [] →
      ∃ blocks, lineBlocks runtime lineItems payload = .ok blocks ∧
        Resolves runtime sendable document lineItems.lookupFields blocks

theorem checkSendable_isOk {texts : List String} :
    (∃ done, checkSendable sendable texts = .ok done) ↔
      ∀ text ∈ texts, sendable text = true := by
  rw [checkSendable]
  by_cases hall : texts.all sendable = true
  · rw [if_pos hall]
    simpa using hall
  · rw [if_neg hall]
    simpa using hall

theorem fetchGroup_isOk :
    (∃ cache, fetchGroup sendable mappings keys group = .ok cache) ↔
      ∀ text ∈ group.1 :: group.2 :: groupIds keys group, sendable text = true := by
  rw [← checkSendable_isOk, fetchGroup]
  constructor
  · rintro ⟨cache, hok⟩
    obtain ⟨done, hdone, -⟩ := bind_eq_ok hok
    exact ⟨done, hdone⟩
  · rintro ⟨done, hdone⟩
    simp only [hdone]
    exact ⟨_, rfl⟩

variable (mappings) in
/-- The queries succeed when the texts of every key can be sent. -/
theorem fetchGroups_isOk :
    (∃ cache, fetchGroups sendable mappings keys = .ok cache) ↔
      ∀ key ∈ keys, SendableKey sendable key := by
  have hmap : (∃ cache, fetchGroups sendable mappings keys = .ok cache) ↔
      ∃ groups, (keyGroups keys).mapM (fetchGroup sendable mappings keys) =
        .ok groups := by
    rw [fetchGroups]
    cases (keyGroups keys).mapM (fetchGroup sendable mappings keys) with
    | error | ok => simp [Functor.map, Except.map]
  rw [hmap, mapM_isOk_iff]
  simp only [fetchGroup_isOk, List.forall_mem_cons]
  constructor
  · intro hgroups key hkey
    have hgroup := hgroups (key.1, key.2.1) (by
      rw [keyGroups, List.mem_dedup]
      exact List.mem_map_of_mem hkey)
    refine ⟨hgroup.1, hgroup.2.1, hgroup.2.2 _ ?_⟩
    rw [groupIds, List.mem_dedup]
    exact List.mem_map_of_mem (List.mem_filter.mpr ⟨hkey, by simp⟩)
  · intro hkeys group hgroup
    rw [keyGroups, List.mem_dedup] at hgroup
    obtain ⟨key, hkey, rfl⟩ := List.mem_map.mp hgroup
    obtain ⟨hsystem, htype, -⟩ := hkeys key hkey
    refine ⟨hsystem, htype, ?_⟩
    intro id hid
    rw [groupIds, List.mem_dedup] at hid
    obtain ⟨other, hother, rfl⟩ := List.mem_map.mp hid
    exact (hkeys other (List.mem_filter.mp hother).1).2.2

/-- The key of a field is known when its path resolves. -/
theorem prefetchKey_eq_ok {block : PyValue} {entry : FieldMapping × CrossSystemLookup}
    {key : Option MappingKey} :
    prefetchKey runtime document block entry = .ok key ↔
      ∃ sourceId, resolveJsonpath runtime entry.1.sourcePath block = .ok sourceId ∧
        key = if sourceId.isNone then none
          else some (entry.2.system document, entry.2.sourceType, runtime.str sourceId) := by
  rw [prefetchKey]
  constructor
  · intro hok
    obtain ⟨sourceId, hsource, hkey⟩ := bind_eq_ok hok
    cases hkey
    exact ⟨sourceId, hsource, rfl⟩
  · rintro ⟨sourceId, hsource, rfl⟩
    rw [hsource]
    rfl

section Prefetched

variable {fields : List (FieldMapping × CrossSystemLookup)} {blocks : List PyValue}

theorem prefetchKeys_isOk :
    (∃ keys, prefetchKeys runtime document fields blocks = .ok keys) ↔
      ∀ block ∈ blocks, ∀ entry ∈ fields, ∃ sourceId,
        resolveJsonpath runtime entry.1.sourcePath block = .ok sourceId := by
  have hloop : (∃ keys, prefetchKeys runtime document fields blocks = .ok keys) ↔
      ∃ keys, blocks.mapM (fun block =>
        fields.mapM (prefetchKey runtime document block)) = .ok keys := by
    rw [prefetchKeys]
    constructor
    · rintro ⟨keys, hok⟩
      obtain ⟨lists, hlists, -⟩ := bind_eq_ok hok
      exact ⟨lists, hlists⟩
    · rintro ⟨lists, hlists⟩
      simp only [hlists]
      exact ⟨_, rfl⟩
  rw [hloop, mapM_isOk_iff]
  simp only [mapM_isOk_iff, prefetchKey_eq_ok]
  simp

theorem mem_prefetchKeys
    (hkeys : prefetchKeys runtime document fields blocks = .ok keys) {key : MappingKey} :
    key ∈ keys ↔ ∃ block ∈ blocks, ∃ entry ∈ fields,
      prefetchKey runtime document block entry = .ok (some key) := by
  rw [prefetchKeys] at hkeys
  obtain ⟨lists, hlists, hok⟩ := bind_eq_ok hkeys
  cases hok
  simp only [List.reduceOption_mem_iff, List.mem_flatten, mem_of_mapM_eq_ok hlists]
  constructor
  · rintro ⟨list, ⟨block, hblock, hlist⟩, hkey⟩
    exact ⟨block, hblock, (mem_of_mapM_eq_ok hlist).mp hkey⟩
  · rintro ⟨block, hblock, entry, hentry, hkey⟩
    obtain ⟨list, hlist⟩ := mapM_isOk_iff.mp ⟨lists, hlists⟩ block hblock
    exact ⟨list, ⟨block, hblock, hlist⟩, (mem_of_mapM_eq_ok hlist).mpr ⟨entry, hentry, hkey⟩⟩

/-- The blocks resolve exactly when their keys are read and can be sent. -/
theorem resolves_iff :
    Resolves runtime sendable document fields blocks ↔
      ∃ keys, prefetchKeys runtime document fields blocks = .ok keys ∧
        ∀ key ∈ keys, SendableKey sendable key := by
  constructor
  · intro hresolves
    obtain ⟨keys, hkeys⟩ := prefetchKeys_isOk.mpr fun block hblock entry hentry =>
      (hresolves block hblock entry hentry).imp fun _ hsource => hsource.1
    refine ⟨keys, hkeys, ?_⟩
    intro key hkey
    obtain ⟨block, hblock, entry, hentry, hread⟩ := (mem_prefetchKeys hkeys).mp hkey
    obtain ⟨sourceId, hsource, hsend⟩ := hresolves block hblock entry hentry
    obtain ⟨other, hother, hsome⟩ := prefetchKey_eq_ok.mp hread
    rw [hsource] at hother
    cases hother
    by_cases hnone : sourceId.isNone
    · simp [hnone] at hsome
    · rw [if_neg hnone] at hsome
      cases hsome
      exact hsend fun h => hnone (PyValue.isNone_iff.mpr h)
  · rintro ⟨keys, hkeys, hsend⟩ block hblock entry hentry
    obtain ⟨sourceId, hsource⟩ := prefetchKeys_isOk.mp ⟨keys, hkeys⟩ block hblock entry hentry
    refine ⟨sourceId, hsource, ?_⟩
    intro hpresent
    have hnone : ¬ sourceId.isNone = true := fun h => hpresent (PyValue.isNone_iff.mp h)
    apply hsend
    apply (mem_prefetchKeys hkeys).mpr
    exact ⟨block, hblock, entry, hentry,
      prefetchKey_eq_ok.mpr ⟨sourceId, hsource, (if_neg hnone).symm⟩⟩

end Prefetched

variable (mappings) in
/-- The prefetch raises nothing exactly when the lines can be read ahead. -/
theorem prefetch_isOk :
    (∃ cache, prefetchLineLookups runtime sendable mappings document resourceKey payload =
      .ok cache) ↔ CanPrefetch runtime sendable document resourceKey payload := by
  rw [prefetchLineLookups]
  cases hresource : document.resource resourceKey with
  | none => simp [CanPrefetch, hresource]
  | some resource =>
      cases hlines : resource.lineItems with
      | none => simp [CanPrefetch, hresource, hlines]
      | some lineItems =>
          simp only [Option.bind_some, hlines]
          by_cases hfields : lineItems.lookupFields = []
          · simp [CanPrefetch, hresource, hlines, hfields]
          · rw [if_neg hfields]
            have hcan : CanPrefetch runtime sendable document resourceKey payload ↔
                ∃ blocks, lineBlocks runtime lineItems payload = .ok blocks ∧
                  Resolves runtime sendable document lineItems.lookupFields blocks := by
              simp [CanPrefetch, hresource, hlines, hfields]
            rw [hcan]
            constructor
            · rintro ⟨cache, hok⟩
              obtain ⟨blocks, hblocks, hok⟩ := bind_eq_ok hok
              obtain ⟨keys, hkeys, hfetch⟩ := bind_eq_ok hok
              exact ⟨blocks, hblocks, resolves_iff.mpr
                ⟨keys, hkeys, (fetchGroups_isOk mappings).mp ⟨cache, hfetch⟩⟩⟩
            · rintro ⟨blocks, hblocks, hresolves⟩
              obtain ⟨keys, hkeys, hsend⟩ := resolves_iff.mp hresolves
              obtain ⟨cache, hcache⟩ := (fetchGroups_isOk mappings).mpr hsend
              exact ⟨cache, by simp only [hblocks, hkeys, bind, Except.bind, hcache]⟩

/-- A cache that was read serves every lookup as its own query does. -/
theorem cachedLookup_of_prefetch
    (hprefetch : prefetchLineLookups runtime sendable mappings document resourceKey
      payload = .ok cache) :
    cachedLookup sendable mappings cache = lookupRow sendable mappings := by
  rw [prefetchLineLookups] at hprefetch
  split at hprefetch
  · cases hprefetch
    rfl
  · split at hprefetch
    · cases hprefetch
      rfl
    · obtain ⟨_, -, hprefetch⟩ := bind_eq_ok hprefetch
      obtain ⟨_, -, hfetch⟩ := bind_eq_ok hprefetch
      exact cachedLookup_eq hfetch

/-- The step with the prefetch comes to what it comes to with one query per lookup if
and only if the lines can be read ahead, or the mapping itself raises an exception the
handler does not catch. -/
theorem mappingStep_eq_iff {columns : String → List String}
    (mapping : LoadedMapping runtime columns) (resourceKey : String) (payload : PyValue)
    (override : Dict) :
    mappingStep runtime sendable mappings mapping.toMappingDocument resourceKey payload override =
      mappingStepPerRow runtime sendable mappings mapping.toMappingDocument resourceKey
        payload override ↔
      CanPrefetch runtime sendable mapping.toMappingDocument resourceKey payload ∨
        mappingStepPerRow runtime sendable mappings mapping.toMappingDocument resourceKey
          payload override = .crash := by
  rw [← prefetch_isOk mappings, mappingStep]
  cases hprefetch : prefetchLineLookups runtime sendable mappings mapping.toMappingDocument
      resourceKey payload with
  | error failure => simp [eq_comm]
  | ok cache =>
      have hlookup := cachedLookup_of_prefetch hprefetch
      simp only [hlookup]
      simp [mappingStepPerRow]

/-! ## A line field with an expression and a lookup -/

/-- `sku`: the block itself, with a lookup no path feeds. -/
def skuField : FieldMapping where
  canonical := "sku"
  type := "string"
  sourcePath := none
  required := true
  crossSystemLookup := some ⟨"item", none⟩
  derived := some ⟨"source", none⟩
  default := .none
  enumValues := none
  maxDigits := none
  decimalPlaces := none
  ge := none
  le := none

def skuOrders : ResourceMapping where
  canonicalType := "sales_order"
  fields := []
  lineItems := some ⟨"lines", "lines", [skuField]⟩

def skuMapping : LoadedMapping memberRuntime fun _ => [] where
  sourceSystem := "shop"
  versionCompare := "integer"
  resources := ⟨[("sales_orders", skuOrders)], List.nodup_singleton _⟩
  loads :=
    { shapes := by
        intro entry hentry field hfield
        rw [List.mem_singleton.mp hentry] at hfield
        rw [List.mem_singleton.mp hfield]
        rfl
      types := by
        intro entry hentry
        rw [List.mem_singleton.mp hentry]
        decide
      keys := by
        intro entry hentry
        rw [List.mem_singleton.mp hentry]
        decide
      version := by decide
      columns := by
        intro entry hentry field hfield
        rw [List.mem_singleton.mp hentry] at hfield
        cases hfield
      expressions := by
        intro entry hentry field hfield derived hderived
        rw [List.mem_singleton.mp hentry] at hfield
        rw [List.mem_singleton.mp hfield] at hderived
        cases hderived
        rfl }

/-- The mapping gives the order its line; the prefetch asks for a path there is not. -/
theorem prefetch_crashes :
    let payload := PyValue.dict [("lines", .list [.str "A"])]
    let stepped := mappingStep memberRuntime (fun _ => true) Keyed.empty
      skuMapping.toMappingDocument "sales_orders" payload []
    let perRow := mappingStepPerRow memberRuntime (fun _ => true) Keyed.empty
      skuMapping.toMappingDocument "sales_orders" payload []
    perRow = .payload [("lines", .list [.dict [("sku", .str "A")]])] ∧ stepped = .crash ∧
      stepped ≠ perRow := by
  intro payload stepped perRow
  have hperRow : perRow = .payload [("lines", .list [.dict [("sku", .str "A")]])] := rfl
  have hstepped : stepped = .crash := rfl
  refine ⟨hperRow, hstepped, ?_⟩
  rw [hperRow, hstepped]
  exact nofun

end SentryWms.Mapping

import SentryWms.Inbound.MappingLoader

/-!
# Required fields of a mapping

What `apply` leaves under the fields a document declares required.  Only the branch of
plain fields checks `required`: a derived field may come out empty, a lookup field
comes out empty when its path is missing, and a later entry of the same canonical name
overwrites an earlier one.
-/

namespace SentryWms.Mapping

variable (runtime : Runtime) (document : MappingDocument) (lookupFn : Option LookupFn)

/-! ## Declared and present -/

/-- Every required field has a value that is not `None`. -/
def Filled (fields : List FieldMapping) (out : Dict) : Prop :=
  ∀ field ∈ fields, field.required = true →
    ∃ value, out.get field.canonical = some value ∧ value ≠ .none

/-- The required fields of the header and of every line have a value. -/
structure RequiredPresent (resource : ResourceMapping) (out : Dict) : Prop where
  header : Filled resource.fields out
  lines : ∀ lineItems ∈ resource.lineItems,
    ∃ lines, out.get lineItems.canonicalPath = some (.list lines) ∧
      ∀ line ∈ lines, ∃ entries, line = .dict entries ∧ Filled lineItems.fields entries

/-! ## Fields that give nothing -/

/-- The path the expression waits for is not in the payload. -/
def DerivedExpression.Waits (derived : DerivedExpression) (payload : PyValue) : Prop :=
  ∃ path ∈ derived.whenPresent, resolveJsonpath runtime (some path) payload = .ok .none

/-- A derived field whose expression is `None`, or waits where the field's own path
(its default, without one) is missing too. -/
def DerivedGivesNothing (field : FieldMapping) (derived : DerivedExpression)
    (payload : PyValue) : Prop :=
  (derived.Waits runtime payload ∧
      resolvePath runtime field.sourcePath field.default payload = .ok .none) ∨
    (¬ derived.Waits runtime payload ∧ runtime.evaluate derived.expression payload = .ok .none)

/-- A lookup field whose path is missing, or an optional one with no mapping. -/
def LookupGivesNothing (field : FieldMapping) (lookup : CrossSystemLookup)
    (payload : PyValue) : Prop :=
  resolveJsonpath runtime field.sourcePath payload = .ok .none ∨
    field.required = false ∧ ∃ sourceId query,
      resolveJsonpath runtime field.sourcePath payload = .ok sourceId ∧
      lookupFn = some query ∧
      query (lookup.system document) lookup.sourceType (runtime.str sourceId) = .ok none

/-- An optional field with neither a value nor a default. -/
def PlainGivesNothing (field : FieldMapping) (payload : PyValue) : Prop :=
  field.required = false ∧ field.default = .none ∧
    resolvePath runtime field.sourcePath .none payload = .ok .none

/-- The field has no value in the payload. -/
def GivesNothing (field : FieldMapping) (payload : PyValue) : Prop :=
  match field.derived, field.crossSystemLookup with
  | some derived, _ => DerivedGivesNothing runtime field derived payload
  | none, some lookup => LookupGivesNothing runtime document lookupFn field lookup payload
  | none, none => PlainGivesNothing runtime field payload

/-- The entry whose value the canonical name keeps. -/
def lastNamed (fields : List FieldMapping) (canonical : String) : Option FieldMapping :=
  (fields.filter fun field => field.canonical = canonical).getLast?

/-- Every required name is last written by an entry that gives something. -/
def Supplied (fields : List FieldMapping) (payload : PyValue) : Prop :=
  ∀ field ∈ fields, field.required = true →
    ∀ last ∈ lastNamed fields field.canonical, ¬ GivesNothing runtime document lookupFn last payload

/-- The same of the header, but for a name the list of lines overwrites, and of every
line. -/
structure AllSupplied (resource : ResourceMapping) (payload : PyValue) : Prop where
  header : ∀ field ∈ resource.fields, field.required = true →
    (∀ lineItems ∈ resource.lineItems, lineItems.canonicalPath ≠ field.canonical) →
    ∀ last ∈ lastNamed resource.fields field.canonical,
      ¬ GivesNothing runtime document lookupFn last payload
  lines : ∀ lineItems ∈ resource.lineItems, ∀ blocks,
    lineBlocks runtime lineItems payload = .ok blocks →
    ∀ block ∈ blocks, Supplied runtime document lookupFn lineItems.fields block

/-! ## One field -/

variable {runtime document lookupFn} {field : FieldMapping} {payload value out : PyValue}

theorem PyValue.isNone_iff : value.isNone = true ↔ value = .none := by
  cases value <;> simp [PyValue.isNone]

theorem check_eq_ok {condition : Prop} [Decidable condition] {message : String}
    {done : Unit} (hcheck : check condition message = .ok done) : condition := by
  by_contra hfails
  rw [check, if_neg hfails] at hcheck
  cases hcheck

theorem bind_eq_ok {A B : Type} {first : Except MappingError A}
    {next : A → Except MappingError B} {result : B}
    (hbind : (first >>= next) = .ok result) :
    ∃ value, first = .ok value ∧ next value = .ok result := by
  cases first with
  | error failure => cases hbind
  | ok value => exact ⟨value, rfl, hbind⟩

/-- Coercion neither invents nor loses a value. -/
theorem coerceOrDefault_eq_none (hcoerce : coerceOrDefault runtime field value = .ok out) :
    out = .none ↔ value = .none := by
  rw [coerceOrDefault] at hcoerce
  by_cases hnone : value.isNone
  · rw [if_pos hnone] at hcoerce
    cases hcoerce
    simp [PyValue.isNone_iff.mp hnone]
  · rw [if_neg hnone] at hcoerce
    have hvalue : value ≠ .none := fun h => hnone (PyValue.isNone_iff.mpr h)
    simp only [hvalue, iff_false]
    by_cases henum : field.type = "enum"
    · rw [if_pos henum] at hcoerce
      obtain ⟨_, -, hok⟩ := bind_eq_ok hcoerce
      cases hok
      exact hvalue
    · rw [if_neg henum] at hcoerce
      by_cases hdecimal : field.type = "decimal"
      · rw [if_pos hdecimal] at hcoerce
        obtain ⟨number, -, hok⟩ := bind_eq_ok hcoerce
        cases hok
        simp
      · rw [if_neg hdecimal] at hcoerce
        cases hcoerce
        exact hvalue

theorem resolvePath_eq_none {path : Option String} {otherwise found : PyValue}
    (hfound : resolvePath runtime path otherwise payload = .ok found) :
    resolvePath runtime path otherwise payload = .ok .none ↔ found = .none := by
  rw [hfound]
  simp

theorem evalDerived_cases {derived : DerivedExpression} {evaluated : Option PyValue}
    (heval : evalDerived runtime derived payload = .ok evaluated) :
    (derived.Waits runtime payload ∧ evaluated = none) ∨
      (¬ derived.Waits runtime payload ∧ ∃ value, evaluated = some value ∧
        runtime.evaluate derived.expression payload = .ok value) := by
  rw [evalDerived] at heval
  obtain ⟨gated, hgated, heval⟩ := bind_eq_ok heval
  have hwaits : gated = true ↔ derived.Waits runtime payload := by
    cases hwhen : derived.whenPresent with
    | none =>
        simp only [isGated, hwhen] at hgated
        cases hgated
        simp [DerivedExpression.Waits, hwhen]
    | some path =>
        simp only [isGated, hwhen] at hgated
        cases hfound : resolveJsonpath runtime (some path) payload with
        | error failure =>
            rw [hfound] at hgated
            cases hgated
        | ok found =>
            rw [hfound] at hgated
            cases hgated
            simp [DerivedExpression.Waits, hwhen, hfound, PyValue.isNone_iff]
  by_cases hgate : gated = true
  · rw [if_pos hgate] at heval
    cases heval
    exact Or.inl ⟨hwaits.mp hgate, rfl⟩
  · rw [if_neg hgate] at heval
    obtain ⟨_, -, heval⟩ := bind_eq_ok heval
    obtain ⟨value, hvalue, hok⟩ := bind_eq_ok heval
    cases hok
    exact Or.inr ⟨fun h => hgate (hwaits.mpr h), value, rfl, hvalue⟩

theorem resolveDerived_eq_none {derived : DerivedExpression}
    (hresolve : resolveDerived runtime field derived payload = .ok out) :
    out = .none ↔ DerivedGivesNothing runtime field derived payload := by
  rw [resolveDerived] at hresolve
  cases heval : evalDerived runtime derived payload with
  | error failure =>
      rw [heval] at hresolve
      cases hresolve
  | ok evaluated =>
      rw [heval] at hresolve
      rcases evalDerived_cases heval with ⟨hwaits, rfl⟩ | ⟨hfires, value, rfl, hvalue⟩
      · obtain ⟨found, hfound, hcoerce⟩ := bind_eq_ok hresolve
        rw [coerceOrDefault_eq_none hcoerce, ← resolvePath_eq_none hfound]
        simp [DerivedGivesNothing, hwaits]
      · rw [coerceOrDefault_eq_none hresolve]
        simp [DerivedGivesNothing, hfires, hvalue]

theorem resolveLookup_eq_none {lookup : CrossSystemLookup}
    (hresolve : resolveLookup runtime document lookupFn field lookup payload = .ok out) :
    out = .none ↔ LookupGivesNothing runtime document lookupFn field lookup payload := by
  rw [resolveLookup] at hresolve
  obtain ⟨_, -, hresolve⟩ := bind_eq_ok hresolve
  obtain ⟨sourceId, hsource, hresolve⟩ := bind_eq_ok hresolve
  by_cases hnone : sourceId.isNone
  · rw [if_pos hnone] at hresolve
    have hmissing := PyValue.isNone_iff.mp hnone
    simp [coerceOrDefault_eq_none hresolve, LookupGivesNothing, hsource, hmissing]
  · rw [if_neg hnone] at hresolve
    have hpresent : sourceId ≠ .none := fun h => hnone (PyValue.isNone_iff.mpr h)
    cases lookupFn with
    | none => cases hresolve
    | some query =>
        obtain ⟨asked, hasked, hresolve⟩ := bind_eq_ok hresolve
        cases hasked
        obtain ⟨canonicalId, hquery, hresolve⟩ := bind_eq_ok hresolve
        cases canonicalId with
        | some canonicalId =>
            cases hresolve
            simp [LookupGivesNothing, hsource, hpresent, hquery]
        | none =>
            by_cases hrequired : field.required = true
            · rw [if_pos hrequired] at hresolve
              cases hresolve
            · rw [if_neg hrequired] at hresolve
              have hoptional : field.required = false := by simpa using hrequired
              simp [coerceOrDefault_eq_none hresolve, LookupGivesNothing, hsource,
                hoptional, hquery]

theorem resolvePlain_eq_none (hresolve : resolvePlain runtime field payload = .ok out) :
    out = .none ↔ PlainGivesNothing runtime field payload := by
  rw [resolvePlain] at hresolve
  obtain ⟨found, hfound, hresolve⟩ := bind_eq_ok hresolve
  obtain ⟨_, hchecked, hcoerce⟩ := bind_eq_ok hresolve
  have hrequired := check_eq_ok hchecked
  rw [coerceOrDefault_eq_none hcoerce, PlainGivesNothing, resolvePath_eq_none hfound]
  by_cases hnone : found.isNone
  · rw [if_pos hnone] at hrequired ⊢
    have hmissing := PyValue.isNone_iff.mp hnone
    constructor
    · intro hdefault
      refine ⟨?_, hdefault, hmissing⟩
      by_contra hfield
      simpa [hdefault, PyValue.isNone] using hrequired (by simpa using hfield)
    · exact fun hnothing => hnothing.2.1
  · rw [if_neg hnone] at hrequired ⊢
    have hpresent : found ≠ .none := fun h => hnone (PyValue.isNone_iff.mpr h)
    simp [hpresent]

/-- A field comes out `None` exactly where it has no value in the payload. -/
theorem resolveField_eq_none
    (hresolve : resolveField runtime document lookupFn field payload = .ok out) :
    out = .none ↔ GivesNothing runtime document lookupFn field payload := by
  cases hderived : field.derived with
  | some derived =>
      simp only [resolveField, hderived] at hresolve
      simpa only [GivesNothing, hderived] using resolveDerived_eq_none hresolve
  | none =>
      cases hlookup : field.crossSystemLookup with
      | some lookup =>
          simp only [resolveField, hderived, hlookup] at hresolve
          simpa only [GivesNothing, hderived, hlookup] using
            resolveLookup_eq_none hresolve
      | none =>
          simp only [resolveField, hderived, hlookup] at hresolve
          simpa only [GivesNothing, hderived, hlookup] using
            resolvePlain_eq_none hresolve

/-! ## The fields of a record -/

theorem lastNamed_cons (first : FieldMapping) (rest : List FieldMapping)
    (canonical : String) :
    lastNamed (first :: rest) canonical =
      (lastNamed rest canonical).or
        (if first.canonical = canonical then some first else none) := by
  by_cases hnamed : first.canonical = canonical
  · cases hrest : rest.filter fun field => field.canonical = canonical with
    | nil => simp [lastNamed, hnamed, hrest]
    | cons next others =>
        rw [lastNamed, List.filter_cons_of_pos (by simpa using hnamed), lastNamed, hrest,
          List.getLast?_cons_cons, List.getLast?_eq_some_getLast (List.cons_ne_nil _ _),
          Option.some_or]
  · simp [lastNamed, hnamed]

variable {fields : List FieldMapping} {before after : Dict}

/-- A field of a record has a last entry of its name. -/
theorem exists_lastNamed (hfield : field ∈ fields) :
    ∃ last, lastNamed fields field.canonical = some last := by
  have hmem : field ∈ fields.filter fun other => other.canonical = field.canonical := by
    simp [hfield]
  exact ⟨_, List.getLast?_eq_some_getLast (List.ne_nil_of_mem hmem)⟩

/-- What the record holds under a name: the value of the last entry of that name. -/
theorem resolveFields_get
    (hresolve : resolveFields runtime document lookupFn payload fields before = .ok after)
    (canonical : String) :
    match lastNamed fields canonical with
    | some last => ∃ value, after.get canonical = some value ∧
        resolveField runtime document lookupFn last payload = .ok value
    | none => after.get canonical = before.get canonical := by
  induction fields generalizing before with
  | nil =>
      cases hresolve
      rfl
  | cons first rest ih =>
      obtain ⟨value, hvalue, hrest⟩ := bind_eq_ok hresolve
      have hlater := ih hrest
      rw [lastNamed_cons]
      cases hlast : lastNamed rest canonical with
      | some last =>
          rw [hlast] at hlater
          exact hlater
      | none =>
          rw [hlast, Dict.get_set] at hlater
          by_cases hnamed : first.canonical = canonical
          · rw [if_pos hnamed] at hlater
            simp only [hnamed, if_true, Option.none_or]
            exact ⟨value, hlater, hvalue⟩
          · rw [if_neg hnamed] at hlater
            simpa only [hnamed, if_false, Option.none_or] using hlater

/-- A name has a value exactly when its last entry gives something. -/
theorem present_iff
    (hresolve : resolveFields runtime document lookupFn payload fields before = .ok after)
    (hfield : field ∈ fields) :
    (∃ value, after.get field.canonical = some value ∧ value ≠ .none) ↔
      ∀ last ∈ lastNamed fields field.canonical,
        ¬ GivesNothing runtime document lookupFn last payload := by
  obtain ⟨last, hlast⟩ := exists_lastNamed hfield
  have hget := resolveFields_get hresolve field.canonical
  rw [hlast] at hget
  obtain ⟨value, hvalue, hresolved⟩ := hget
  rw [hvalue, hlast]
  simp [← resolveField_eq_none hresolved]

theorem filled_iff
    (hresolve : resolveFields runtime document lookupFn payload fields before = .ok after) :
    Filled fields after ↔ Supplied runtime document lookupFn fields payload := by
  constructor
  · intro hfilled named hnamed hrequired
    exact (present_iff hresolve hnamed).mp (hfilled named hnamed hrequired)
  · intro hsupplied named hnamed hrequired
    exact (present_iff hresolve hnamed).mpr (hsupplied named hnamed hrequired)

/-- The lines are filled exactly when every block supplies the fields of its line. -/
theorem resolveLines_filled {blocks lines : List PyValue}
    (hresolve : resolveLines runtime document lookupFn fields blocks = .ok lines) :
    (∀ line ∈ lines, ∃ entries, line = .dict entries ∧ Filled fields entries) ↔
      ∀ block ∈ blocks, Supplied runtime document lookupFn fields block := by
  induction blocks generalizing lines with
  | nil =>
      cases hresolve
      simp
  | cons block rest ih =>
      obtain ⟨line, hline, hresolve⟩ := bind_eq_ok hresolve
      obtain ⟨later, hlater, hok⟩ := bind_eq_ok hresolve
      cases hok
      rw [List.forall_mem_cons, List.forall_mem_cons, ih hlater, ← filled_iff hline]
      simp

/-! ## The result -/

/-- The header and the lines of what `apply` gives. -/
theorem applyResource_present {resource : ResourceMapping} {result : Dict}
    (hresolve : applyResource runtime document lookupFn resource payload = .ok result) :
    RequiredPresent resource result ↔
      AllSupplied runtime document lookupFn resource payload := by
  obtain ⟨header, hheader, hresolve⟩ := bind_eq_ok hresolve
  cases hlineItems : resource.lineItems with
  | none =>
      simp only [hlineItems] at hresolve
      cases hresolve
      constructor
      · intro hpresent
        refine ⟨?_, by simp [hlineItems]⟩
        intro field hfield hrequired _
        exact (present_iff hheader hfield).mp (hpresent.header field hfield hrequired)
      · intro hsupplied
        refine ⟨?_, by simp [hlineItems]⟩
        intro field hfield hrequired
        exact (present_iff hheader hfield).mpr
          (hsupplied.header field hfield hrequired (by simp [hlineItems]))
  | some lineItems =>
      simp only [hlineItems] at hresolve
      obtain ⟨blocks, hblocks, hresolve⟩ := bind_eq_ok hresolve
      obtain ⟨lines, hlines, hok⟩ := bind_eq_ok hresolve
      cases hok
      have hlinesGet : (Dict.set lineItems.canonicalPath (.list lines) header).get
          lineItems.canonicalPath = some (.list lines) := by
        rw [Dict.get_set, if_pos rfl]
      have hother : ∀ canonical, lineItems.canonicalPath ≠ canonical →
          (Dict.set lineItems.canonicalPath (.list lines) header).get canonical =
            header.get canonical := by
        intro canonical hne
        rw [Dict.get_set, if_neg hne]
      constructor
      · intro hpresent
        constructor
        · intro field hfield hrequired hapart
          have hvalue := hpresent.header field hfield hrequired
          rw [hother _ (hapart lineItems hlineItems)] at hvalue
          exact (present_iff hheader hfield).mp hvalue
        · intro declared hdeclared found hfound block hblock
          rw [hlineItems] at hdeclared
          cases hdeclared
          rw [hblocks] at hfound
          cases hfound
          obtain ⟨stored, hstored, hfilled⟩ := hpresent.lines lineItems hlineItems
          rw [hlinesGet] at hstored
          cases hstored
          exact (resolveLines_filled hlines).mp hfilled block hblock
      · intro hsupplied
        constructor
        · intro field hfield hrequired
          by_cases hsame : lineItems.canonicalPath = field.canonical
          · rw [← hsame]
            exact ⟨.list lines, hlinesGet, by simp⟩
          · rw [hother _ hsame]
            refine (present_iff hheader hfield).mpr (hsupplied.header field hfield hrequired ?_)
            intro declared hdeclared
            rw [hlineItems] at hdeclared
            cases hdeclared
            exact hsame
        · intro declared hdeclared
          rw [hlineItems] at hdeclared
          cases hdeclared
          refine ⟨lines, hlinesGet, (resolveLines_filled hlines).mpr ?_⟩
          exact hsupplied.lines lineItems hlineItems blocks hblocks

/-- A mapping that succeeds leaves every required field with a value if and only if
the last entry of each required name gives something. -/
theorem apply_required_iff {columns : String → List String}
    (mapping : LoadedMapping runtime columns) {resourceKey : String}
    {resource : ResourceMapping} {result : Dict}
    (hresource : mapping.resource resourceKey = some resource)
    (happly : apply runtime mapping.toMappingDocument lookupFn resourceKey payload [] =
      .ok result) :
    RequiredPresent resource result ↔
      AllSupplied runtime mapping.toMappingDocument lookupFn resource payload := by
  simp only [apply, hresource] at happly
  obtain ⟨out, hout, hok⟩ := bind_eq_ok happly
  cases hok
  exact applyResource_present hout

/-! ## A document of one lookup field -/

/-- A runtime for paths of one member and the expression `source`. -/
def memberRuntime : Runtime where
  jsonpath := fun path payload =>
    match path, payload with
    | none, _ => .error (.exception "'NoneType' object is not subscriptable")
    | some member, .dict entries => .ok (Dict.get entries member).toList
    | some _, _ => .ok []
  walk := fun expression =>
    if expression = "source" then .ok [.other, .name "source", .other]
    else .error "invalid syntax"
  evaluate := fun expression payload =>
    if expression = "source" then .ok payload else .error (.exception "invalid syntax")
  decimal := fun _ => none
  str := fun value => match value with
    | .str text => text
    | _ => value.typeName
  repr := fun value => match value with
    | .str text => s!"'{text}'"
    | _ => value.typeName

/-- `customer_id`: required, looked up by the customer of the payload. -/
def customerField : FieldMapping where
  canonical := "customer_id"
  type := "uuid"
  sourcePath := some "customer"
  required := true
  crossSystemLookup := some ⟨"customer", none⟩
  derived := none
  default := .none
  enumValues := none
  maxDigits := none
  decimalPlaces := none
  ge := none
  le := none

def customerOrders : ResourceMapping where
  canonicalType := "sales_order"
  fields := [customerField]
  lineItems := none

def customerMapping : LoadedMapping memberRuntime fun _ => ["customer_id"] where
  sourceSystem := "shop"
  versionCompare := "integer"
  resources := ⟨[("sales_orders", customerOrders)], List.nodup_singleton _⟩
  loads :=
    { shapes := by
        intro entry hentry field hfield
        rw [List.mem_singleton.mp hentry] at hfield
        rw [List.mem_singleton.mp hfield]
        rfl
      types := by
        intro entry hentry
        rw [List.mem_singleton.mp hentry]
        decide
      keys := by
        intro entry hentry
        rw [List.mem_singleton.mp hentry]
        decide
      version := by decide
      columns := by
        intro entry hentry field hfield
        rw [List.mem_singleton.mp hentry] at hfield
        rw [List.mem_singleton.mp hfield]
        exact List.mem_singleton_self _
      expressions := by
        intro entry hentry field hfield derived hderived
        rw [List.mem_singleton.mp hentry] at hfield
        rw [List.mem_singleton.mp hfield] at hderived
        cases hderived }

theorem apply_required_iff_customer :
    RequiredPresent customerOrders [("customer_id", .uuid 7)] ↔
      AllSupplied memberRuntime customerMapping.toMappingDocument
        (some fun _ _ _ => .ok (some 7)) customerOrders
        (.dict [("customer", .str "C-1")]) := by
  have hresource : customerMapping.resource "sales_orders" = some customerOrders := rfl
  exact apply_required_iff customerMapping hresource rfl

/-- An order without a customer is mapped to one whose required customer is `None`. -/
theorem apply_without_customer :
    ∃ result, apply memberRuntime customerMapping.toMappingDocument
        (some fun _ _ _ => .ok (some 7)) "sales_orders" (.dict []) [] = .ok result ∧
      ¬ RequiredPresent customerOrders result := by
  refine ⟨[("customer_id", .none)], rfl, ?_⟩
  intro hpresent
  obtain ⟨value, hvalue, hsome⟩ := hpresent.header customerField List.mem_cons_self rfl
  cases hvalue
  exact hsome rfl

end SentryWms.Mapping

import Mathlib.Algebra.Order.Ring.Rat
import SentryWms.Relational.Keyed

/-!
# Mapping documents

`mapping_loader`: the documents that translate what a source system pushes into
canonical columns, the checks a document passes before it is used, and `apply`, which
runs one against a payload.  The JSONPath and expression libraries, the parser of the
language and the texts of its values are the runtime, a parameter.
-/

namespace SentryWms.Mapping

open Relational

/-! ## Values -/

/-- `decimal.Decimal`; a NaN carries the number of its digits. -/
inductive PyDecimal
  | finite (negative : Bool) (coefficient : ℕ) (exponent : ℤ)
  | infinity (negative : Bool)
  | nan (digits : ℕ)
  deriving DecidableEq, Repr

/-- A `float`. -/
inductive PyFloat
  | finite (value : ℚ)
  | infinity (negative : Bool)
  | nan
  deriving DecidableEq

/-- A value of a payload, of a document's `default` or of a result. -/
inductive PyValue
  | none
  | bool (value : Bool)
  | int (value : ℤ)
  | float (value : PyFloat)
  | str (value : String)
  | list (items : List PyValue)
  | dict (entries : List (String × PyValue))
  | decimal (value : PyDecimal)
  | uuid (value : ℕ)
  | object (typeName : String)

/-- A `dict` with text keys, in insertion order. -/
abbrev Dict := List (String × PyValue)

namespace Dict

def get (dict : Dict) (key : String) : Option PyValue :=
  (dict.find? fun entry => entry.1 = key).map Prod.snd

/-- `dict[key] = value`: an entry under the key keeps its place. -/
def set (key : String) (value : PyValue) : Dict → Dict
  | [] => [(key, value)]
  | entry :: rest =>
      if entry.1 = key then (key, value) :: rest else entry :: set key value rest

/-- `dict.update(other)`. -/
def update (dict other : Dict) : Dict :=
  other.foldl (fun updated entry => Dict.set entry.1 entry.2 updated) dict

theorem get_set (dict : Dict) (key asked : String) (value : PyValue) :
    (Dict.set key value dict).get asked =
      if key = asked then some value else dict.get asked := by
  induction dict with
  | nil =>
      by_cases hkey : key = asked
      · simp [set, get, hkey]
      · simp [set, get, hkey]
  | cons entry rest ih =>
      rw [set]
      by_cases hsame : entry.1 = key
      · rw [if_pos hsame]
        by_cases hkey : key = asked
        · simp [get, hkey]
        · simp [get, hkey, hsame]
      · rw [if_neg hsame]
        by_cases hasked : entry.1 = asked
        · have hkey : key ≠ asked := fun hkey => hsame (hasked.trans hkey.symm)
          simp [get, hasked, hkey]
        · simpa [get, hasked] using ih

end Dict

/-- Python's truth of a `Decimal`. -/
def PyDecimal.isTruthy : PyDecimal → Bool
  | .finite _ coefficient _ => coefficient ≠ 0
  | .infinity _ | .nan _ => true

/-- Python's truth of a `float`. -/
def PyFloat.isTruthy : PyFloat → Bool
  | .finite value => value ≠ 0
  | .infinity _ | .nan => true

/-- Python's truth of a value. -/
def PyValue.isTruthy : PyValue → Bool
  | .none => false
  | .bool value => value
  | .int value => value ≠ 0
  | .float value => value.isTruthy
  | .str value => value ≠ ""
  | .list items => !items.isEmpty
  | .dict entries => !entries.isEmpty
  | .decimal value => value.isTruthy
  | .uuid _ | .object _ => true

/-- `value is None`. -/
def PyValue.isNone : PyValue → Bool
  | .none => true
  | _ => false

/-- `type(value).__name__`. -/
def PyValue.typeName : PyValue → String
  | .none => "NoneType"
  | .bool _ => "bool"
  | .int _ => "int"
  | .float _ => "float"
  | .str _ => "str"
  | .list _ => "list"
  | .dict _ => "dict"
  | .decimal _ => "Decimal"
  | .uuid _ => "UUID"
  | .object typeName => typeName

/-! ## Failures -/

/-- An exception of `apply`. -/
inductive MappingError
  | valueError (message : String)
  | crossSystemLookupMiss (sourceSystem sourceType sourceId : String)
  | exception (message : String)
  deriving DecidableEq, Repr

/-- `str(exc)`. -/
def MappingError.message : MappingError → String
  | .valueError message | .exception message => message
  | .crossSystemLookupMiss sourceSystem sourceType sourceId =>
      s!"cross_system_lookup miss: ({sourceSystem}, {sourceType}, {sourceId})"

/-! ## Decimals -/

namespace PyDecimal

/-- `as_tuple().exponent`, when it is a number. -/
def exponent? : PyDecimal → Option ℤ
  | .finite _ _ exponent => some exponent
  | .infinity _ | .nan _ => Option.none

/-- `len(as_tuple().digits)`. -/
def digitCount : PyDecimal → ℕ
  | .finite _ coefficient _ => (Nat.toDigits 10 coefficient).length
  | .infinity _ => 1
  | .nan digits => digits

def toRat (negative : Bool) (coefficient : ℕ) (exponent : ℤ) : ℚ :=
  (if negative then -1 else 1) * coefficient * 10 ^ exponent

/-- `left < right`; an order comparison with a NaN signals `InvalidOperation`. -/
def lt : PyDecimal → PyDecimal → Except MappingError Bool
  | .nan _, _ | _, .nan _ =>
      .error (.exception "[<class 'decimal.InvalidOperation'>]")
  | .infinity left, .infinity right => .ok (left && !right)
  | .infinity left, .finite .. => .ok left
  | .finite .., .infinity right => .ok (!right)
  | .finite negative coefficient exponent, .finite negative' coefficient' exponent' =>
      .ok (toRat negative coefficient exponent < toRat negative' coefficient' exponent')

end PyDecimal

/-! ## The runtime -/

/-- A node of a parsed expression, as far as the check of expressions looks at it; a
call holds the name it calls, if it calls a name, and the text of what it calls. -/
inductive AstNode
  | name (id : String)
  | attribute (attr : String)
  | call (func : Option String) (unparsed : String)
  | other
  deriving DecidableEq, Repr

/-- What the module uses of its libraries: `jsonpath_ng.parse(path).find(payload)`,
`ast.walk(ast.parse(expression))` or the message of the syntax error, `simpleeval` with
the payload under the name `source`, `Decimal(text)`, and the texts of values. -/
structure Runtime where
  jsonpath : Option String → PyValue → Except MappingError (List PyValue)
  walk : String → Except String (List AstNode)
  evaluate : String → PyValue → Except MappingError PyValue
  decimal : String → Option PyDecimal
  str : PyValue → String
  repr : PyValue → String

/-! ## Documents -/

structure CrossSystemLookup where
  sourceType : String
  sourceSystem : Option String

structure DerivedExpression where
  expression : String
  whenPresent : Option String

structure FieldMapping where
  canonical : String
  type : String
  sourcePath : Option String
  required : Bool
  crossSystemLookup : Option CrossSystemLookup
  derived : Option DerivedExpression
  default : PyValue
  enumValues : Option (List String)
  maxDigits : Option ℤ
  decimalPlaces : Option ℤ
  ge : Option PyDecimal
  le : Option PyDecimal

structure LineItemMapping where
  sourcePath : String
  canonicalPath : String
  fields : List FieldMapping

structure ResourceMapping where
  canonicalType : String
  fields : List FieldMapping
  lineItems : Option LineItemMapping

structure MappingDocument where
  sourceSystem : String
  versionCompare : String
  resources : Keyed (String × ResourceMapping) Prod.fst

/-- `document.resources.get(resource_key)`. -/
def MappingDocument.resource (document : MappingDocument) (resourceKey : String) :
    Option ResourceMapping :=
  (document.resources.lookup resourceKey).map Prod.snd

/-- `_DERIVED_FUNCTIONS`. -/
def derivedFunctions : List String := ["int", "float", "str", "len", "abs", "min", "max", "round"]

/-- `CANONICAL_RESOURCE_TYPES`. -/
def canonicalResourceTypes : List (String × String) :=
  [("sales_orders", "sales_order"), ("items", "item"), ("customers", "customer"),
    ("vendors", "vendor"), ("purchase_orders", "purchase_order")]

def fieldTypes : List String :=
  ["string", "integer", "decimal", "boolean", "uuid", "iso_timestamp", "enum"]

def versionComparisons : List String := ["iso_timestamp", "integer", "lexicographic"]

variable (runtime : Runtime)

/-- `raise ValueError(message)` unless the condition holds. -/
def check (condition : Prop) [Decidable condition] (message : String) : Except MappingError Unit :=
  if condition then .ok () else .error (.valueError message)

/-- The four attributes that only a decimal field may declare. -/
def FieldMapping.bounds (field : FieldMapping) : List (String × Bool) :=
  [("max_digits", field.maxDigits.isSome), ("decimal_places", field.decimalPlaces.isSome),
    ("ge", field.ge.isSome), ("le", field.le.isSome)]

/-- The name of a field, as the messages show it. -/
def FieldMapping.shown (field : FieldMapping) : String := runtime.repr (.str field.canonical)

/-- `_check_field_shape`. -/
def FieldMapping.checkFieldShape (field : FieldMapping) : Except MappingError Unit := do
  let shown := field.shown runtime
  let typeShown := runtime.repr (.str field.type)
  check (field.type ∈ fieldTypes) s!"unknown field type: {typeShown}"
  check (field.type = "enum" → field.enumValues.getD [] ≠ []) "type='enum' requires enum_values"
  check (field.derived.isSome ∨ field.sourcePath.isSome ∨ field.default.isNone = false)
    s!"field {shown}: one of source_path / derived / default required"
  for (attr, declared) in field.bounds do
    check (declared = true → field.type = "decimal")
      s!"field {shown}: {attr} only valid for type='decimal'"
  check (∀ digits ∈ field.maxDigits, 0 < digits) s!"field {shown}: max_digits must be positive"
  check (∀ places ∈ field.decimalPlaces, 0 ≤ places)
    s!"field {shown}: decimal_places must be non-negative"
  check (∀ digits ∈ field.maxDigits, ∀ places ∈ field.decimalPlaces, places ≤ digits)
    s!"field {shown}: decimal_places > max_digits"

/-- One node of `_validate_expression_shape`. -/
def AstNode.validate (node : AstNode) : Except MappingError Unit :=
  let allowed := "['abs', 'float', 'int', 'len', 'max', 'min', 'round', 'str']"
  match node with
  | .name id =>
      let shown := runtime.repr (.str id)
      check (id ∈ "source" :: derivedFunctions)
        s!"forbidden name {shown} (allowed: 'source' and {allowed})"
  | .attribute attr =>
      let shown := runtime.repr (.str attr)
      check (attr.toList.head? ≠ some '_')
        s!"forbidden attribute {shown} (underscore-prefixed attributes are disallowed)"
  | .call func unparsed =>
      let shown := runtime.repr (.str unparsed)
      check (∃ id ∈ func, id ∈ derivedFunctions)
        s!"forbidden call target {shown} (allowed callables: {allowed})"
  | .other => .ok ()

/-- `_validate_expression_shape`. -/
def validateExpressionShape (expression : String) : Except MappingError Unit :=
  match runtime.walk expression with
  | .error reason => .error (.valueError s!"unparseable expression: {reason}")
  | .ok nodes => nodes.forM (AstNode.validate runtime)

/-- Every field of a resource, those of its lines included. -/
def ResourceMapping.allFields (resource : ResourceMapping) : List FieldMapping :=
  resource.fields ++ resource.lineItems.elim [] LineItemMapping.fields

/-- A document the loader registers: the validators of its models, and the checks of
`boot_load` against the columns of the canonical tables and on every expression. -/
structure MappingDocument.Loads (columns : String → List String)
    (document : MappingDocument) : Prop where
  shapes : ∀ entry ∈ document.resources.rows, ∀ field ∈ entry.2.allFields,
    field.checkFieldShape runtime = .ok ()
  types : ∀ entry ∈ document.resources.rows,
    entry.2.canonicalType ∈ canonicalResourceTypes.map Prod.snd
  keys : ∀ entry ∈ document.resources.rows, entry.1 ∈ canonicalResourceTypes.map Prod.fst
  version : document.versionCompare ∈ versionComparisons
  columns : ∀ entry ∈ document.resources.rows, ∀ field ∈ entry.2.fields,
    field.canonical ∈ columns entry.2.canonicalType
  expressions : ∀ entry ∈ document.resources.rows, ∀ field ∈ entry.2.allFields,
    ∀ derived ∈ field.derived, validateExpressionShape runtime derived.expression = .ok ()

/-- A document of the registry, for the columns the canonical tables have. -/
structure LoadedMapping (columns : String → List String) extends MappingDocument where
  loads : toMappingDocument.Loads runtime columns

/-! ## The result of a field -/

/-- `_resolve_jsonpath`: one match is itself, several are a list. -/
def resolveJsonpath (path : Option String) (payload : PyValue) :
    Except MappingError PyValue := do
  match ← runtime.jsonpath path payload with
  | [] => .ok .none
  | [value] => .ok value
  | values => .ok (.list values)

/-- A source path that may be undeclared, else what stands in for it. -/
def resolvePath (path : Option String) (otherwise : PyValue) (payload : PyValue) :
    Except MappingError PyValue :=
  match path with
  | some declared => resolveJsonpath runtime (some declared) payload
  | .none => .ok otherwise

/-- The path of `when_present` gives nothing. -/
def isGated (derived : DerivedExpression) (payload : PyValue) : Except MappingError Bool :=
  match derived.whenPresent with
  | some path => PyValue.isNone <$> resolveJsonpath runtime (some path) payload
  | .none => .ok false

/-- `_eval_derived`; `none` is the sentinel that asks for the field's own path. -/
def evalDerived (derived : DerivedExpression) (payload : PyValue) :
    Except MappingError (Option PyValue) := do
  let gated ← isGated runtime derived payload
  if gated then
    return .none
  validateExpressionShape runtime derived.expression
  return some (← runtime.evaluate derived.expression payload)

/-- The decimal that `_coerce_decimal` reads a value as, if it reads one. -/
def readDecimal (value : PyValue) : Option PyDecimal :=
  match value with
  | .decimal parsed => some parsed
  | .int _ | .float _ | .str _ => runtime.decimal (runtime.str value)
  | _ => none

/-- Why it reads none. -/
def notDecimal : PyValue → String
  | .decimal _ | .int _ | .float _ | .str _ => "[<class 'decimal.ConversionSyntax'>]"
  | .bool _ => "boolean cannot be coerced to decimal"
  | other => s!"unsupported type {other.typeName}"

/-- The checks that `_coerce_decimal` makes of what it has read. -/
def checkDecimal (field : FieldMapping) (value : PyValue) (parsed : PyDecimal) :
    Except MappingError PyDecimal := do
  let shown := field.shown runtime
  let valueShown := runtime.repr value
  if let some places := field.decimalPlaces then
    match parsed.exponent? with
    | .none => .error (.valueError s!"field {shown}: non-finite decimal {valueShown}")
    | some exponent =>
        check (-places ≤ exponent)
          s!"field {shown}: value {valueShown} has more than {places} decimal place(s)"
  if let some digits := field.maxDigits then
    check (parsed.digitCount ≤ digits)
      s!"field {shown}: value {valueShown} has more than {digits} significant digit(s)"
  if let some bound := field.ge then
    let boundShown := runtime.str (.decimal bound)
    check ((← parsed.lt bound) = false)
      s!"field {shown}: value {valueShown} is less than ge={boundShown}"
  if let some bound := field.le then
    let boundShown := runtime.str (.decimal bound)
    check ((← bound.lt parsed) = false)
      s!"field {shown}: value {valueShown} exceeds le={boundShown}"
  return parsed

/-- `_coerce_decimal`. -/
def coerceDecimal (field : FieldMapping) (value : PyValue) : Except MappingError PyDecimal :=
  let shown := field.shown runtime
  let valueShown := runtime.repr value
  let reason := notDecimal value
  match readDecimal runtime value with
  | some parsed => checkDecimal runtime field value parsed
  | none => .error (.valueError s!"field {shown}: cannot coerce {valueShown} to decimal: {reason}")

/-- `value in enum_values`. -/
def PyValue.isOneOf (value : PyValue) (texts : List String) : Bool :=
  match value with
  | .str text => texts.contains text
  | _ => false

/-- `_coerce_or_default`. -/
def coerceOrDefault (field : FieldMapping) (value : PyValue) :
    Except MappingError PyValue := do
  if value.isNone then
    return .none
  if field.type = "enum" then
    let shown := field.shown runtime
    let valueShown := runtime.repr value
    check (value.isOneOf (field.enumValues.getD []))
      s!"field {shown}: value {valueShown} not in enum_values"
    return value
  if field.type = "decimal" then
    return .decimal (← coerceDecimal runtime field value)
  return value

/-- `LookupFn`: a query for the canonical id of a source's record. -/
abbrev LookupFn := String → String → String → Except MappingError (Option ℕ)

/-- `cs.source_system or document.source_system`. -/
def CrossSystemLookup.system (lookup : CrossSystemLookup) (document : MappingDocument) : String :=
  match lookup.sourceSystem with
  | some sourceSystem => if sourceSystem = "" then document.sourceSystem else sourceSystem
  | .none => document.sourceSystem

variable (document : MappingDocument) (lookupFn : Option LookupFn)

/-- What a failure of the expression is raised as. -/
def FieldMapping.derivedFailure (field : FieldMapping) : MappingError → MappingError
  | .crossSystemLookupMiss sourceSystem sourceType sourceId =>
      .crossSystemLookupMiss sourceSystem sourceType sourceId
  | failure =>
      let shown := field.shown runtime
      .valueError s!"derived expression for {shown} failed: {failure.message}"

/-- `_resolve_field`, of a field with a derived expression. -/
def resolveDerived (field : FieldMapping) (derived : DerivedExpression)
    (payload : PyValue) : Except MappingError PyValue :=
  match evalDerived runtime derived payload with
  | .error failure => .error (field.derivedFailure runtime failure)
  | .ok (some value) => coerceOrDefault runtime field value
  | .ok .none => do
      let found ← resolvePath runtime field.sourcePath field.default payload
      coerceOrDefault runtime field found

/-- `_resolve_field`, of a field with a cross-system lookup. -/
def resolveLookup (field : FieldMapping) (lookup : CrossSystemLookup)
    (payload : PyValue) : Except MappingError PyValue := do
  let shown := field.shown runtime
  check (field.sourcePath.isSome) s!"field {shown}: cross_system_lookup requires source_path"
  let sourceId ← resolveJsonpath runtime field.sourcePath payload
  if sourceId.isNone then
    coerceOrDefault runtime field .none
  else
    let query ← lookupFn.elim
      (.error (.exception
        "apply() called without lookup_fn but mapping declares cross_system_lookup"))
      .ok
    let sourceSystem := lookup.system document
    match ← query sourceSystem lookup.sourceType (runtime.str sourceId) with
    | some canonicalId => return .uuid canonicalId
    | .none =>
        if field.required then
          .error (.crossSystemLookupMiss sourceSystem lookup.sourceType (runtime.str sourceId))
        else
          coerceOrDefault runtime field .none

/-- `_resolve_field`, of a field with neither. -/
def resolvePlain (field : FieldMapping) (payload : PyValue) :
    Except MappingError PyValue := do
  let shown := field.shown runtime
  let found ← resolvePath runtime field.sourcePath .none payload
  let value := if found.isNone then field.default else found
  check (field.required = true → value.isNone = false) s!"field {shown}: required path missing"
  coerceOrDefault runtime field value

/-- `_resolve_field`. -/
def resolveField (field : FieldMapping) (payload : PyValue) : Except MappingError PyValue :=
  match field.derived, field.crossSystemLookup with
  | some derived, _ => resolveDerived runtime field derived payload
  | .none, some lookup => resolveLookup runtime document lookupFn field lookup payload
  | .none, .none => resolvePlain runtime field payload

/-! ## `apply` -/

/-- The loop over the fields of a record: `out[field.canonical] = ...`. -/
def resolveFields (payload : PyValue) : List FieldMapping → Dict → Except MappingError Dict
  | [], out => .ok out
  | field :: rest, out => do
      let value ← resolveField runtime document lookupFn field payload
      resolveFields payload rest (Dict.set field.canonical value out)

/-- `line_blocks`: a falsy value is no block, and one that is no list is one block. -/
def lineBlocks (lineItems : LineItemMapping) (payload : PyValue) :
    Except MappingError (List PyValue) := do
  let found ← resolveJsonpath runtime (some lineItems.sourcePath) payload
  if found.isTruthy then
    match found with
    | .list blocks => return blocks
    | block => return [block]
  else
    return []

/-- The loop over the line blocks. -/
def resolveLines (fields : List FieldMapping) :
    List PyValue → Except MappingError (List PyValue)
  | [] => .ok []
  | block :: rest => do
      let line ← resolveFields runtime document lookupFn block fields []
      let lines ← resolveLines fields rest
      return .dict line :: lines

/-- `out` before the overrides. -/
def applyResource (resource : ResourceMapping) (payload : PyValue) :
    Except MappingError Dict := do
  let out ← resolveFields runtime document lookupFn payload resource.fields []
  match resource.lineItems with
  | .none => return out
  | some lineItems =>
      let blocks ← lineBlocks runtime lineItems payload
      let lines ← resolveLines runtime document lookupFn lineItems.fields blocks
      return Dict.set lineItems.canonicalPath (.list lines) out

/-- `apply`. -/
def apply (resourceKey : String) (payload : PyValue) (override : Dict) :
    Except MappingError Dict := do
  match document.resource resourceKey with
  | .none =>
      let shown := runtime.repr (.str resourceKey)
      .error (.exception s!"mapping for resource_key {shown} not declared")
  | some resource =>
      let out ← applyResource runtime document lookupFn resource payload
      return out.update override

end SentryWms.Mapping

import Mathlib.Data.Rat.Defs
import Xaytune.Core.Document

/-!
# Response schemas, and how answers are checked

A response schema is a document of a closed subset of JSON Schema. A schema outside the subset is
refused when the request is built; an answer is checked against an accepted one. Both walks go
down the schema, and give up where it is deeper than they were told.
-/

namespace Xaytune.Agent

open Xaytune.Core

/-- What the code relies on of Python's values. -/
structure PythonValues (F : Type) where
  /-- The number a finite float is. -/
  rational : F → ℚ
  /-- How a finite float is printed. -/
  reprFloat : F → Text
  repr_injective : Function.Injective reprFloat
  repr_plain : ∀ value, ∀ letter ∈ reprFloat value,
    letter ≠ point ',' ∧ letter ≠ point ']' ∧ letter ≠ point '\x7d'
  /-- `repr` of any value. -/
  shown : Value F → Text
  typeName : Value F → Text

variable {F : Type} (python : PythonValues F)

/-- A value in an f-string, where a text stands for itself. -/
def printed : Value F → Text
  | .str letters => letters
  | value => python.shown value

/-- What a walk raises on a schema it was not made for. -/
inductive PythonError where
  | typeError
  | keyError (key : String)
  | recursion
  deriving DecidableEq

/-! ## Types and numbers -/

inductive Kind where
  | object | array | string | integer | number | boolean | null
  deriving DecidableEq

def Kind.word : Kind → String
  | .object => "object"
  | .array => "array"
  | .string => "string"
  | .integer => "integer"
  | .number => "number"
  | .boolean => "boolean"
  | .null => "null"

/-- `_TYPES`, in the order in which `_json_type` tries them. -/
def kinds : List Kind := [.null, .boolean, .integer, .number, .string, .array, .object]

def kindOf? (word : Text) : Option Kind := kinds.find? fun kind => text kind.word = word

/-- The type a value of the keyword `type` names. -/
def kindNamed : Value F → Option Kind
  | .str word => kindOf? word
  | _ => none

def Kind.has : Kind → Value F → Bool
  | .object, .map _ => true
  | .array, .seq _ => true
  | .string, .str _ => true
  | .integer, .int _ => true
  | .number, .int _ => true
  | .number, .float _ => true
  | .boolean, .bool _ => true
  | .null, .null => true
  | _, _ => false

/-- `_has_type`: what names no type is read as `null`. -/
def hasType (kind value : Value F) : Bool := ((kindNamed kind).getD .null).has value

/-- `_json_type`. -/
def jsonType (value : Value F) : Text :=
  match kinds.find? fun kind => kind.has value with
  | some kind => text kind.word
  | none => python.typeName value

/-- An integer or a float, as the number it is; `True` is neither. -/
def number? : Value F → Option ℚ
  | .int value => some value
  | .float value => some (python.rational value)
  | _ => none

/-- A non-negative integer, as `_is_size` accepts it. -/
def size? : Value F → Option Nat
  | .int (.ofNat size) => some size
  | _ => none

def texts? (items : List (Value F)) : Option (List Text) :=
  items.mapM fun item =>
    match item with
    | .str letters => some letters
    | _ => none

/-! ## Keywords -/

def everyNode : List String := ["type", "anyOf", "enum", "const", "title", "description"]

def bounds : List String := ["exclusiveMaximum", "exclusiveMinimum", "maximum", "minimum"]

/-- `_BY_TYPE`. -/
def Kind.keywords : Kind → List String
  | .object => ["properties", "required", "additionalProperties"]
  | .array => ["items", "minItems", "maxItems"]
  | .string => ["minLength", "maxLength"]
  | .integer => bounds
  | .number => bounds
  | .boolean => []
  | .null => []

/-- `schema[key]`, if it is there. -/
def keyword? (schema : Value F) (key : String) : Option (Value F) := schema.field? (text key)

/-- `schema.get(key)`. -/
def get (schema : Value F) (key : String) : Value F := (keyword? schema key).getD .null

def isNull : Value F → Bool
  | .null => true
  | _ => false

mutual

/-- How deep the value is nested. -/
def depth : Value F → Nat
  | .seq items => depthOfAll items + 1
  | .map entries => depthOfEntries entries + 1
  | _ => 1

def depthOfAll : List (Value F) → Nat
  | [] => 0
  | item :: items => max (depth item) (depthOfAll items)

def depthOfEntries : List (Text × Value F) → Nat
  | [] => 0
  | (_, item) :: entries => max (depth item) (depthOfEntries entries)

end

/-! ## Checking a value -/

/-- One path's violations, in the order found. -/
abbrev Violations := List Text

/-- One numeric keyword, where the schema has it. -/
def checkLimit (limit : Option (Value F)) (broken : ℚ → Bool) (message : Text) :
    Except PythonError Violations :=
  match limit with
  | none => .ok []
  | some limit =>
      match number? python limit with
      | none => .error .typeError
      | some limit => .ok (if broken limit then [message] else [])

/-- `schema.get(name)` of a size, where `None` is no limit. -/
def sizeLimit (schema : Value F) (key : String) : Option (Value F) :=
  match get schema key with
  | .null => none
  | limit => some limit

/-- `_check_size`. -/
def checkSize (size : Nat) (schema : Value F) (low high unit : String) (path : Text) :
    Except PythonError Violations := do
  let message (word : String) (key : String) : Text :=
    path ++ text (": at " ++ word ++ " ") ++ printed python (get schema key) ++
      text (" " ++ unit ++ ", got ") ++ spell (decimal size)
  let tooSmall ← checkLimit python (sizeLimit schema low) (fun limit => size < limit)
    (message "least" low)
  let tooLarge ← checkLimit python (sizeLimit schema high) (fun limit => limit < size)
    (message "most" high)
  pure (tooSmall ++ tooLarge)

/-- `_check_bounds`. -/
def checkBounds (value : ℚ) (schema : Value F) (path : Text) : Except PythonError Violations := do
  let message (sign key : String) : Text :=
    path ++ text (": must be " ++ sign ++ " ") ++ printed python (get schema key)
  let minimum ← checkLimit python (keyword? schema "minimum") (fun limit => value < limit)
    (message ">=" "minimum")
  let maximum ← checkLimit python (keyword? schema "maximum") (fun limit => limit < value)
    (message "<=" "maximum")
  let above ← checkLimit python (keyword? schema "exclusiveMinimum") (fun limit => value ≤ limit)
    (message ">" "exclusiveMinimum")
  let below ← checkLimit python (keyword? schema "exclusiveMaximum") (fun limit => limit ≤ value)
    (message "<" "exclusiveMaximum")
  pure (minimum ++ maximum ++ above ++ below)

def checkConst (schema value : Value F) (path : Text) : Violations :=
  match keyword? schema "const" with
  | none => []
  | some only =>
      if encode python.reprFloat value = encode python.reprFloat only then []
      else [path ++ text ": must be " ++ python.shown only]

def checkEnum (schema value : Value F) (path : Text) : Except PythonError Violations :=
  match keyword? schema "enum" with
  | none => .ok []
  | some (.seq options) =>
      .ok (if encode python.reprFloat value ∈ options.map (encode python.reprFloat) then []
        else [path ++ text ": must be one of " ++ python.shown (.seq options)])
  | some _ => .error .typeError

section Walk

variable (again : Value F → Value F → Text → Except PythonError Violations)

def checkProperty (properties fields : List (Text × Value F)) (path name : Text) :
    Except PythonError Violations :=
  match properties.lookup name with
  | none => .ok [path ++ text ": unexpected " ++ python.shown (.str name)]
  | some child =>
      match fields.lookup name with
      | none => .error (.keyError "value")
      | some given => again child given (path ++ text "." ++ name)

/-- The keys of an object in order, each with what it holds. -/
def checkProperties (properties fields : List (Text × Value F)) (path : Text) :
    Except PythonError Violations := do
  let found ← (sortedKeys fields).mapM (checkProperty python again properties fields path)
  pure found.flatten

def missingName (fields : List (Text × Value F)) (path : Text) (name : Value F) : Violations :=
  let missing := [path ++ text ": missing required " ++ python.shown name]
  match name with
  | .str letters => if letters ∈ fields.map Prod.fst then [] else missing
  | _ => missing

def checkObjectValue (schema : Value F) (fields : List (Text × Value F)) (path : Text) :
    Except PythonError Violations :=
  match (keyword? schema "properties").getD (.map []),
    (keyword? schema "required").getD (.seq []) with
  | .map properties, .seq required => do
      let found ← checkProperties python again properties fields path
      pure (required.flatMap (missingName python fields path) ++ found)
  | _, _ => .error .typeError

def checkItem (schema : Value F) (path : Text) (entry : Value F × Nat) :
    Except PythonError Violations :=
  match keyword? schema "items" with
  | none => .error (.keyError "items")
  | some child => again child entry.1 (path ++ text "[" ++ spell (decimal entry.2) ++ text "]")

def checkItems (schema : Value F) (items : List (Value F)) (path : Text) :
    Except PythonError Violations := do
  let found ← items.zipIdx.mapM (checkItem again schema path)
  pure found.flatten

/-- What `_check_value` asks of a value of the type, behind `const` and `enum`. -/
def checkByType (schema value : Value F) (path : Text) : Except PythonError Violations :=
  match kindNamed (get schema "type"), value with
  | some .object, .map fields => checkObjectValue python again schema fields path
  | some .object, _ => .error .typeError
  | some .array, .seq items => do
      let sizes ← checkSize python items.length schema "minItems" "maxItems" "items" path
      let found ← checkItems again schema items path
      pure (sizes ++ found)
  | some .array, _ => .error .typeError
  | some .string, .str letters =>
      checkSize python letters.length schema "minLength" "maxLength" "characters" path
  | some .string, _ => .error .typeError
  | some .integer, value | some .number, value =>
      match number? python value with
      | some number => checkBounds python number schema path
      | none => .error .typeError
  | some .boolean, _ | some .null, _ | none, _ => .ok []

/-- `const`, `enum` and the type, of a value that has passed the first check. -/
def checkRest (schema value : Value F) (path : Text) : Except PythonError Violations := do
  let options ← checkEnum python schema value path
  let byType ← checkByType python again schema value path
  pure (checkConst python schema value path ++ options ++ byType)

/-- The members of the list that pass the test, as a comprehension keeps them. -/
def select (test : Value F → Except PythonError Bool) :
    List (Value F) → Except PythonError (List (Value F))
  | [] => .ok []
  | item :: items => do
      let passes ← test item
      let others ← select test items
      pure (if passes then item :: others else others)

/-- `_explain_alternatives`. -/
def explainAlternatives (couldBe : Value F → Value F → Except PythonError Bool)
    (alternatives : List (Value F)) (value : Value F) (path : Text) :
    Except PythonError Violations := do
  let meant ← select (fun option => couldBe option value) alternatives
  match meant with
  | [option] => again option value path
  | _ => pure [path ++ text ": matches none of the " ++ spell (decimal alternatives.length) ++
      text " alternatives"]

/-- `not schema_violations(option, value)`. -/
def fitsOption (value option : Value F) : Except PythonError Bool := do
  let violations ← again option value (text "$")
  pure violations.isEmpty

/-- One call of `_check_value`. -/
def checkValueStep (couldBe : Value F → Value F → Except PythonError Bool)
    (schema value : Value F) (path : Text) : Except PythonError Violations :=
  match schema with
  | .map _ =>
      match keyword? schema "anyOf" with
      | some (.seq alternatives) => do
          let fits ← alternatives.anyM (fitsOption again value)
          if fits then checkRest python again schema value path
          else explainAlternatives again couldBe alternatives value path
      | some _ => .error .typeError
      | none =>
          match keyword? schema "type" with
          | none => .error (.keyError "type")
          | some kind =>
              if hasType kind value then checkRest python again schema value path
              else .ok [path ++ text ": expected " ++ printed python kind ++ text ", got " ++
                jsonType python value]
  | _ => .error .typeError

end Walk

def agreesWithConst (fields : List (Text × Value F)) (property : Text × Value F) :
    Except PythonError Bool :=
  match property.2 with
  | .map _ =>
      match keyword? property.2 "const", fields.lookup property.1 with
      | none, _ => .ok true
      | some _, none => .ok false
      | some only, some given =>
          .ok (encode python.reprFloat given = encode python.reprFloat only)
  | _ => .error .typeError

/-- What makes the alternative the one meant, of a value that has its type. -/
def couldBeTyped (kind option value : Value F) : Except PythonError Bool :=
  match kindNamed kind, value, (keyword? option "properties").getD (.map []) with
  | some .object, .map fields, .map properties => properties.allM (agreesWithConst python fields)
  | some .object, _, _ => .error .typeError
  | _, _, _ => .ok true

/-- `_could_be`. -/
def couldBe : Nat → Value F → Value F → Except PythonError Bool
  | 0, _, _ => .error .recursion
  | fuel + 1, option, value =>
      match keyword? option "anyOf" with
      | some (.seq inner) => inner.anyM fun option => couldBe fuel option value
      | some _ => .error .typeError
      | none =>
          match keyword? option "type" with
          | none => .error (.keyError "type")
          | some kind =>
              if hasType kind value then couldBeTyped python kind option value else .ok false

/-- `_check_value`, in a schema no deeper than the fuel. -/
def checkValue : Nat → Value F → Value F → Text → Except PythonError Violations
  | 0, _, _, _ => .error .recursion
  | fuel + 1, schema, value, path =>
      checkValueStep python (checkValue fuel) (couldBe python fuel) schema value path

def schemaViolations (schema value : Value F) : Except PythonError Violations :=
  checkValue python (depth schema) schema value (text "$")

/-! ## Checking a schema -/

/-- The reasons against a schema, in the order found. -/
abbrev Reasons := List Text

def checkAnnotations (schema : Value F) (path : Text) : Reasons :=
  ["title", "description"].filterMap fun annotation =>
    match keyword? schema annotation with
    | none | some (.str _) => none
    | some _ => some (path ++ text ("." ++ annotation ++ ": must be a string"))

def unsupportedKeywords (keys : List Text) (allowed : List String) (path : Text) : Reasons :=
  ((keys.filter fun key => key ∉ allowed.map text).insertionSort (· ≤ ·)).map fun key =>
    path ++ text ": keyword " ++ python.shown (.str key) ++ text " is not supported here"

def sizeReason (schema : Value F) (path : Text) (name : String) : Option Text :=
  match keyword? schema name with
  | none => none
  | some given =>
      if (size? given).isSome then none
      else some (path ++ text ("." ++ name ++ ": must be a non-negative integer"))

def orderReasons (schema : Value F) (low high : String) (path : Text) : Reasons :=
  match size? (get schema low), size? (get schema high) with
  | some least, some most =>
      if most < least then [path ++ text (": " ++ low ++ " exceeds " ++ high)] else []
  | _, _ => []

/-- `_check_sizes`. -/
def checkSizes (schema : Value F) (low high : String) (path : Text) : Reasons :=
  [low, high].filterMap (sizeReason schema path) ++ orderReasons schema low high path

def checkLimits (schema : Value F) (path : Text) : Reasons :=
  bounds.filterMap fun bound =>
    match keyword? schema bound with
    | none => none
    | some given =>
        if (number? python given).isSome then none
        else some (path ++ text ("." ++ bound ++ ": must be a number"))

def undeclared (properties : List (Text × Value F)) (path name : Text) : Option Text :=
  if name ∈ properties.map Prod.fst then none
  else some (path ++ text ".required: " ++ python.shown (.str name) ++
    text " is not a declared property")

def checkRequired (properties : List (Text × Value F)) (schema : Value F) (path : Text) : Reasons :=
  let malformed := [path ++ text ".required: must be a list of property names"]
  match (keyword? schema "required").getD (.seq []) with
  | .seq required =>
      match texts? required with
      | none => malformed
      | some names =>
          (if names.Nodup then []
            else [path ++ text ".required: names a property more than once"]) ++
          names.filterMap (undeclared python properties path)
  | _ => malformed

def checkClosed (schema : Value F) (path : Text) : Reasons :=
  match keyword? schema "additionalProperties" with
  | none | some (.bool false) => []
  | some _ =>
      [path ++ text ".additionalProperties: objects are closed; only false is allowed"]

section Walk

variable (check : Value F → Text → Except PythonError Reasons)

def checkAll (nodes : List (Value F × Text)) : Except PythonError Reasons := do
  let found ← nodes.mapM fun node => check node.1 node.2
  pure found.flatten

def checkPropertyNodes (properties : List (Text × Value F)) (path : Text) :
    Except PythonError Reasons :=
  checkAll check (properties.map fun entry => (entry.2, path ++ text "." ++ entry.1))

/-- `_check_object`. -/
def checkObject (schema : Value F) (path : Text) : Except PythonError Reasons :=
  match (keyword? schema "properties").getD (.map []) with
  | .map properties => do
      let children ← checkPropertyNodes check properties path
      pure (children ++ checkRequired python properties schema path ++ checkClosed schema path)
  | _ =>
      pure ([path ++ text ".properties: must be an object"] ++
        checkRequired python [] schema path ++
        checkClosed schema path)

/-- `_check_array`. -/
def checkArray (schema : Value F) (path : Text) : Except PythonError Reasons :=
  match keyword? schema "items" with
  | none =>
      pure ([path ++ text ": an array declares its items"] ++
        checkSizes schema "minItems" "maxItems" path)
  | some child => do
      let items ← check child (path ++ text "[]")
      pure (items ++ checkSizes schema "minItems" "maxItems" path)

def checkOptionNodes (options : List (Value F)) (path : Text) : Except PythonError Reasons :=
  checkAll check (options.zipIdx.map fun entry =>
    (entry.1, path ++ text ".anyOf[" ++ spell (decimal entry.2) ++ text "]"))

def checkAlternatives (alternatives : Value F) (path : Text) : Except PythonError Reasons :=
  match alternatives with
  | .seq (first :: others) => checkOptionNodes check (first :: others) path
  | _ => pure [path ++ text ".anyOf: must be a non-empty list of schemas"]

def checkKind (kind : Option Kind) (schema : Value F) (path : Text) :
    Except PythonError Reasons :=
  match kind with
  | some .object => checkObject python check schema path
  | some .array => checkArray check schema path
  | some .string => pure (checkSizes schema "minLength" "maxLength" path)
  | some .integer | some .number => pure (checkLimits python schema path)
  | some .boolean | some .null | none => pure []

/-- `_check_shape`. -/
def checkShape (schema : Value F) (path : Text) : Except PythonError Reasons :=
  match schema with
  | .map entries =>
      let annotations := checkAnnotations schema path
      let kind := get schema "type"
      let notAType := [path ++ text ".type: " ++ python.shown kind ++ text (" is not one of " ++
        "['array', 'boolean', 'integer', 'null', 'number', 'object', 'string']")]
      match keyword? schema "anyOf" with
      | some alternatives => do
          let both :=
            if isNull kind then [] else [path ++ text ": use either type or anyOf, not both"]
          let inside ← checkAlternatives check alternatives path
          let byKind ← checkKind python check (kindNamed kind) schema path
          pure (annotations ++ both ++ inside ++
            unsupportedKeywords python (entries.map Prod.fst) everyNode path ++ byKind)
      | none =>
          match kind with
          | .null => pure (annotations ++ [path ++ text ": every schema names a type (or anyOf)"])
          | .str word =>
              match kindOf? word with
              | none => pure (annotations ++ notAType)
              | some named => do
                  let byKind ← checkKind python check (some named) schema path
                  pure (annotations ++ unsupportedKeywords python (entries.map Prod.fst)
                    (everyNode ++ named.keywords) path ++ byKind)
          | _ => pure (annotations ++ notAType)
  | _ => pure [path ++ text ": a schema must be an object, got " ++ python.typeName schema]

end Walk

/-- The node with `enum` and `const` removed. -/
def withoutLiterals : Value F → Value F
  | .map entries =>
      .map (entries.filter fun entry => entry.1 ≠ text "enum" ∧ entry.1 ≠ text "const")
  | other => other

/-- The members of `enum`, and the `const`. -/
def literals (schema : Value F) : List (Value F) :=
  (match keyword? schema "enum" with
    | some (.seq options) => options
    | _ => []) ++ (keyword? schema "const").toList

def checkLiteral (schema : Value F) (path : Text) (literal : Value F) :
    Except PythonError Reasons := do
  let violations ← schemaViolations python (withoutLiterals schema) literal
  pure (if violations ≠ [] then
      [path ++ text ": literal " ++ python.shown literal ++
        text " does not satisfy the schema it sits on"]
    else [])

def checkEachLiteral (schema : Value F) (path : Text) : Except PythonError Reasons := do
  let found ← (literals schema).mapM (checkLiteral python schema path)
  pure found.flatten

/-- `_check_literals`. -/
def checkLiterals (schema : Value F) (path : Text) : Except PythonError Reasons :=
  match keyword? schema "enum" with
  | none | some (.seq (_ :: _)) => checkEachLiteral python schema path
  | some _ => pure [path ++ text ".enum: must be a non-empty list"]

/-- `_check_node`, of a node no deeper than the fuel. -/
def checkNode : Nat → Value F → Text → Except PythonError Reasons
  | 0, _, _ => .error .recursion
  | fuel + 1, schema, path => do
      let found ← checkShape python (checkNode fuel) schema path
      if found.isEmpty then checkLiterals python schema path else pure found

inductive SchemaError where
  | unsupported (reasons : Reasons)
  | raised (error : PythonError)

def rootReasons (schema : Value F) : Reasons :=
  if kindNamed (get schema "type") = some .object then []
  else [text "$: the root must be \x7b\"type\": \"object\"\x7d"]

def checkResponseSchema (schema : Value F) : Except SchemaError Unit :=
  match checkNode python (depth schema) schema (text "$") with
  | .error error => .error (.raised error)
  | .ok found =>
      if rootReasons schema ++ found = [] then .ok ()
      else .error (.unsupported (rootReasons schema ++ found))

end Xaytune.Agent

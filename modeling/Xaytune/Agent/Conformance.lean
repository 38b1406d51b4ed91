import Mathlib.Data.Rat.Cast.Order
import Xaytune.Agent.Schema
import Xaytune.Library.Reports

/-!
# What a schema asks of a value

A node of a schema is read as a form, and a value conforms to it when it has the form, at every
depth, and the literals of the node allow it. The check of a value is exact for this on every
supported schema: it never fails, and reports nothing exactly where the value conforms.
-/

namespace Xaytune.Agent

open Xaytune.Library Xaytune.Core

variable {F : Type}

/-! ## Forms -/

/-- What one node asks for, with the schemas of the parts. -/
inductive Form (F : Type) where
  | anyOf (alternatives : List (Value F))
  | object (properties : List (Text × Value F)) (required : List Text)
  | array (items : Value F)
  | string
  | integer
  | number
  | boolean
  | null

def Form.kind : Form F → Option Kind
  | .anyOf _ => none
  | .object _ _ => some .object
  | .array _ => some .array
  | .string => some .string
  | .integer => some .integer
  | .number => some .number
  | .boolean => some .boolean
  | .null => some .null

def Form.children : Form F → List (Value F)
  | .anyOf alternatives => alternatives
  | .object properties _ => properties.map Prod.snd
  | .array items => [items]
  | _ => []

/-- The keywords a node of the form may have. -/
def Form.keywords (form : Form F) : List String :=
  everyNode ++ (form.kind.map Kind.keywords).getD []

def properties? (schema : Value F) : Option (List (Text × Value F)) :=
  match (keyword? schema "properties").getD (.map []) with
  | .map properties => some properties
  | _ => none

def required? (schema : Value F) : Option (List Text) :=
  match (keyword? schema "required").getD (.seq []) with
  | .seq names => texts? names
  | _ => none

def form? (schema : Value F) : Option (Form F) :=
  match keyword? schema "anyOf" with
  | some (.seq alternatives) =>
      if isNull (get schema "type") then some (.anyOf alternatives) else none
  | some _ => none
  | none =>
      match kindNamed (get schema "type") with
      | some .object => do some (.object (← properties? schema) (← required? schema))
      | some .array => (keyword? schema "items").map .array
      | some .string => some .string
      | some .integer => some .integer
      | some .number => some .number
      | some .boolean => some .boolean
      | some .null => some .null
      | none => none

/-! ## Conformance -/

/-- The limit allows the number, where the schema has the limit. -/
def Within (python : PythonValues F) (limit : Option (Value F)) (allows : ℚ → Prop) : Prop :=
  ∀ given bound, limit = some given → number? python given = some bound → allows bound

structure SizeFits (python : PythonValues F) (schema : Value F) (low high : String) (size : Nat) :
    Prop where
  least : Within python (sizeLimit schema low) fun limit => limit ≤ size
  most : Within python (sizeLimit schema high) fun limit => size ≤ limit

structure InBounds (python : PythonValues F) (schema : Value F) (number : ℚ) : Prop where
  minimum : Within python (keyword? schema "minimum") fun limit => limit ≤ number
  maximum : Within python (keyword? schema "maximum") fun limit => number ≤ limit
  above : Within python (keyword? schema "exclusiveMinimum") fun limit => limit < number
  below : Within python (keyword? schema "exclusiveMaximum") fun limit => number < limit

/-- The value is, as a typed value, the `const` and a member of the `enum`. -/
structure FitsLiterals (schema value : Value F) : Prop where
  const : ∀ only, keyword? schema "const" = some only → value.Same only
  enum : ∀ options, keyword? schema "enum" = some (.seq options) →
    ∃ option ∈ options, value.Same option

/-- The value is one the schema asks for. -/
inductive Conforms (python : PythonValues F) : Value F → Value F → Prop
  | anyOf {schema value alternative : Value F} {alternatives : List (Value F)} :
      form? schema = some (.anyOf alternatives) → FitsLiterals schema value →
        alternative ∈ alternatives → Conforms python alternative value →
          Conforms python schema value
  | object {schema : Value F} {fields properties : List (Text × Value F)} {required : List Text} :
      form? schema = some (.object properties required) → FitsLiterals schema (.map fields) →
        (∀ name ∈ required, name ∈ fields.map Prod.fst) →
        (∀ name ∈ fields.map Prod.fst, name ∈ properties.map Prod.fst) →
        (∀ name child given, properties.lookup name = some child →
          fields.lookup name = some given → Conforms python child given) →
            Conforms python schema (.map fields)
  | array {schema child : Value F} {items : List (Value F)} :
      form? schema = some (.array child) → FitsLiterals schema (.seq items) →
        SizeFits python schema "minItems" "maxItems" items.length →
        (∀ item ∈ items, Conforms python child item) → Conforms python schema (.seq items)
  | string {schema : Value F} {letters : Text} :
      form? schema = some .string → FitsLiterals schema (.str letters) →
        SizeFits python schema "minLength" "maxLength" letters.length →
          Conforms python schema (.str letters)
  | integer {schema : Value F} {given : Int} :
      form? schema = some .integer → FitsLiterals schema (.int given) →
        InBounds python schema given → Conforms python schema (.int given)
  | number {schema value : Value F} {given : ℚ} :
      form? schema = some .number → FitsLiterals schema value →
        number? python value = some given → InBounds python schema given →
          Conforms python schema value
  | boolean {schema : Value F} {given : Bool} :
      form? schema = some .boolean → FitsLiterals schema (.bool given) →
        Conforms python schema (.bool given)
  | null {schema : Value F} :
      form? schema = some .null → FitsLiterals schema .null → Conforms python schema .null

/-! ## Supported schemas -/

structure SizesFormed (schema : Value F) (low high : String) : Prop where
  sizes : ∀ key ∈ [low, high], ∀ given, keyword? schema key = some given →
    ∃ size, size? given = some size
  ordered : ∀ least most, size? (get schema low) = some least →
    size? (get schema high) = some most → least ≤ most

/-- What the node says of its parts, and of the numbers in it. -/
def PartsFormed (python : PythonValues F) (schema : Value F) : Form F → Prop
  | .anyOf alternatives => alternatives ≠ []
  | .object properties required =>
      required.Nodup ∧ (∀ name ∈ required, name ∈ properties.map Prod.fst) ∧
        ∀ given, keyword? schema "additionalProperties" = some given → given = .bool false
  | .array _ => SizesFormed schema "minItems" "maxItems"
  | .string => SizesFormed schema "minLength" "maxLength"
  | .integer | .number =>
      ∀ bound ∈ bounds, ∀ given, keyword? schema bound = some given →
        ∃ number, number? python given = some number
  | .boolean | .null => True

structure WellFormed (python : PythonValues F) (schema : Value F) (form : Form F) : Prop where
  reads : form? schema = some form
  annotations : ∀ annotation ∈ ["title", "description"], ∀ given,
    keyword? schema annotation = some given → ∃ letters, given = .str letters
  keywords : ∀ keys, schema.keys? = some keys → ∀ key ∈ keys, key ∈ form.keywords.map text
  parts : PartsFormed python schema form

structure LiteralsFormed (python : PythonValues F) (schema : Value F) : Prop where
  enum : ∀ given, keyword? schema "enum" = some given →
    ∃ first others, given = .seq (first :: others)
  literals : ∀ literal ∈ literals schema, Conforms python (withoutLiterals schema) literal

/-- A schema of the subset, at every depth. -/
inductive Supported (python : PythonValues F) : Value F → Prop
  | node {schema : Value F} {form : Form F} :
      WellFormed python schema form → (∀ child ∈ form.children, Supported python child) →
        LiteralsFormed python schema → Supported python schema

/-! ## Reading a form -/

variable {python : PythonValues F} {schema value : Value F} {form : Form F}

theorem kind_of_form (reads : form? schema = some form) :
    kindNamed (get schema "type") = form.kind := by
  unfold form? at reads
  split at reads
  · split at reads
    · next isNone =>
        cases reads
        unfold isNull at isNone
        split at isNone
        · next noType => rw [noType]; rfl
        · cases isNone
    · cases reads
  · cases reads
  · split at reads
    · next named =>
        simp only [Option.bind_eq_bind, Option.bind_eq_some_iff, Option.some.injEq] at reads
        obtain ⟨_, _, _, _, rfl⟩ := reads
        exact named
    · next named =>
        obtain ⟨_, _, rfl⟩ := Option.map_eq_some_iff.mp reads
        exact named
    all_goals first | (next named => cases reads; exact named) | cases reads

theorem form_of_alternatives {alternatives : List (Value F)}
    (found : keyword? schema "anyOf" = some (.seq alternatives))
    (reads : form? schema = some form) :
    form = .anyOf alternatives := by
  unfold form? at reads
  rw [found] at reads
  dsimp only at reads
  split at reads
  · exact (Option.some.inj reads).symm
  · cases reads

theorem keyword_of_form {alternatives : List (Value F)}
    (reads : form? schema = some (.anyOf alternatives)) :
    keyword? schema "anyOf" = some (.seq alternatives) := by
  have noKind := kind_of_form reads
  unfold form? at reads
  split at reads
  · next found =>
      split at reads
      · cases reads
        exact found
      · cases reads
  · cases reads
  · rw [noKind] at reads
    cases reads

theorem typed_of_form {kind : Kind} (isKind : form.kind = some kind)
    (reads : form? schema = some form) : keyword? schema "anyOf" = none := by
  cases found : keyword? schema "anyOf" with
  | none => rfl
  | some given =>
      cases given with
      | seq alternatives =>
          rw [form_of_alternatives found reads] at isKind
          cases isKind
      | _ =>
          unfold form? at reads
          rw [found] at reads
          cases reads

theorem object_of_form {properties : List (Text × Value F)} {required : List Text}
    (reads : form? schema = some (.object properties required)) :
    properties? schema = some properties ∧ required? schema = some required := by
  have typed := typed_of_form rfl reads
  have kind := kind_of_form reads
  unfold form? at reads
  rw [typed, kind] at reads
  simp only [Form.kind, Option.bind_eq_bind, Option.bind_eq_some_iff, Option.some.injEq,
    Form.object.injEq] at reads
  obtain ⟨_, isProperties, _, isRequired, rfl, rfl⟩ := reads
  exact ⟨isProperties, isRequired⟩

theorem items_of_form {child : Value F} (reads : form? schema = some (.array child)) :
    keyword? schema "items" = some child := by
  have typed := typed_of_form rfl reads
  have kind := kind_of_form reads
  unfold form? at reads
  rw [typed, kind] at reads
  obtain ⟨_, isItems, same⟩ := Option.map_eq_some_iff.mp reads
  cases same
  exact isItems

theorem mapping_of_form (reads : form? schema = some form) : ∃ entries, schema = .map entries := by
  cases schema with
  | map entries => exact ⟨entries, rfl⟩
  | _ => cases reads

end Xaytune.Agent

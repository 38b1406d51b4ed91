import Xaytune.Core.Document
import Xaytune.Library.Neighbours
import Xaytune.Library.Segments

/-!
# The space a search varies

Each parameter of a space sets one field of the base candidate. `SearchSpace` looks for fields set
twice, or inside one another, between neighbours of the sorted paths; `apply_parameters` sets the
fields one after the other.
-/

namespace Xaytune.Search

open Xaytune.Library Xaytune.Core

/-- What the code relies on of Python's floats. -/
structure FloatArithmetic (F : Type) where
  finite : F → Bool
  le : F → F → Bool
  repr : F → Text

/-! ## Paths and names -/

def dot : CodePoint := point '.'

def newline : CodePoint := point '\n'

def segmentStart (letter : CodePoint) : Bool :=
  (point 'a' ≤ letter ∧ letter ≤ point 'z') ∨ letter = point '_'

def segmentLetter (letter : CodePoint) : Bool :=
  segmentStart letter ∨ (point '0' ≤ letter ∧ letter ≤ point '9')

/-- `[a-z_][a-z0-9_]*` -/
def isFieldName : Text → Bool
  | [] => false
  | first :: rest => segmentStart first && rest.all segmentLetter

/-- `_SEGMENT.match`: the dollar also matches in front of a last newline. -/
def matchesSegment (segment : Text) : Bool :=
  isFieldName (if segment.getLast? = some newline then segment.dropLast else segment)

def segments (path : Text) : List Text := split dot path

inductive PathError where
  | notFieldNames (path : Text) (bad : List Text)
  | setsMetadata (path : Text)
  | notIdentity (path : Text)

def metadata : Text := spell ['m', 'e', 't', 'a', 'd', 'a', 't', 'a']

/-- `training.api_version` -/
def trainingApiVersion : Text :=
  spell ['t', 'r', 'a', 'i', 'n', 'i', 'n', 'g', '.', 'a', 'p', 'i', '_', 'v', 'e', 'r', 's', 'i',
    'o', 'n']

def aFieldPath (path : Text) : Except PathError Text :=
  let bad := (segments path).filter fun segment => !matchesSegment segment
  if bad ≠ [] then .error (.notFieldNames path bad)
  else if metadata ∈ segments path then .error (.setsMetadata path)
  else if path = trainingApiVersion then .error (.notIdentity path)
  else .ok path

/-- The pattern `[a-z][a-z0-9_]*` of a whole name, and its length. -/
def acceptsName (name : Text) : Bool :=
  isFieldName name ∧ name.head? ≠ some (point '_') ∧ name.length ≤ 64

/-! ## Parameters -/

inductive ParameterDomain (F : Type) where
  | float (low high : F)
  | int (low high : Int)
  | choice (values : List (Value F))

structure Parameter (F : Type) where
  name : Text
  path : Text
  domain : ParameterDomain F

variable {F : Type}

/-- What the validators of a parameter's name and path accept. -/
structure Parameter.Accepted (parameter : Parameter F) : Prop where
  name : acceptsName parameter.name = true
  path : aFieldPath parameter.path = .ok parameter.path

mutual

/-- Whether every float in the value is finite. -/
def allFinite (floats : FloatArithmetic F) : Value F → Bool
  | .float value => floats.finite value
  | .seq items => everyFinite floats items
  | .map entries => entriesFinite floats entries
  | _ => true

def everyFinite (floats : FloatArithmetic F) : List (Value F) → Bool
  | [] => true
  | item :: items => allFinite floats item && everyFinite floats items

def entriesFinite (floats : FloatArithmetic F) : List (Text × Value F) → Bool
  | [] => true
  | (_, item) :: entries => allFinite floats item && entriesFinite floats entries

end

/-- `canonical_encode`, which refuses a float that is not finite. -/
def canonicalEncode (floats : FloatArithmetic F) (value : Value F) : Option Text :=
  if allFinite floats value then some (encode floats.repr value) else none

def ParameterDomain.contains (floats : FloatArithmetic F) :
    ParameterDomain F → Value F → Bool
  | .float low high, .float value =>
      floats.finite value && floats.le low value && floats.le value high
  | .float _ _, _ => false
  | .int low high, .int value => low ≤ value ∧ value ≤ high
  | .int _ _, _ => false
  | .choice values, value =>
      match canonicalEncode floats value with
      | none => false
      | some encoded => values.any fun choice => canonicalEncode floats choice = some encoded

/-! ## The space -/

inductive SpaceError where
  | noParameters
  | nameTwice
  | overlapping (shorter longer : Text)

/-- The parameters in name order, no two of one name. -/
structure SearchSpace (F : Type) where
  parameters : List (Parameter F)
  distinct : (parameters.map Parameter.name).Nodup

def SearchSpace.names (space : SearchSpace F) : List Text := space.parameters.map Parameter.name

/-- The loop over neighbours of the sorted paths. -/
def firstOverlap : List Text → Option (Text × Text)
  | shorter :: longer :: rest =>
      if longer = shorter ∨ (shorter ++ [dot]).IsPrefix longer then some (shorter, longer)
      else firstOverlap (longer :: rest)
  | _ => none

def byName (parameters : List (Parameter F)) : List (Parameter F) :=
  parameters.insertionSort fun first second => first.name ≤ second.name

theorem byName_perm (parameters : List (Parameter F)) : (byName parameters).Perm parameters :=
  List.perm_insertionSort _ _

def sortedPaths (parameters : List (Parameter F)) : List Text :=
  (parameters.map Parameter.path).insertionSort (· ≤ ·)

/-- `SearchSpace(parameters=...)`: at least one parameter, then `_ordered_and_distinct`. -/
def SearchSpace.make (parameters : List (Parameter F)) : Except SpaceError (SearchSpace F) :=
  if parameters = [] then .error .noParameters
  else if distinct : (parameters.map Parameter.name).Nodup then
    match firstOverlap (sortedPaths parameters) with
    | some (shorter, longer) => .error (.overlapping shorter longer)
    | none =>
        .ok
          { parameters := byName parameters
            distinct := ((byName_perm parameters).map _).nodup_iff.mpr distinct }
  else .error .nameTwice

/-! ## Applying values -/

inductive SpaceProblem (F : Type) where
  | valuesFor (given expected : List Text)
  | outsideDomain (name : Text) (value : Value F)
  | noField (name path : Text)

/-- `values[name]`; the names have been checked before. -/
def valueOf (values : List (Text × Value F)) (name : Text) : Value F :=
  (values.lookup name).getD .null

/-- The loop over the parameters, with the document it leaves and every problem it finds. -/
def applyEach (floats : FloatArithmetic F) (values : List (Text × Value F)) :
    List (Parameter F) → Value F → Value F × List (SpaceProblem F)
  | [], document => (document, [])
  | parameter :: rest, document =>
      let value := valueOf values parameter.name
      if parameter.domain.contains floats value then
        match Value.setAt? (segments parameter.path) value document with
        | some changed => applyEach floats values rest changed
        | none =>
            let (changed, problems) := applyEach floats values rest document
            (changed, .noField parameter.name parameter.path :: problems)
      else
        let (changed, problems) := applyEach floats values rest document
        (changed, .outsideDomain parameter.name value :: problems)

/-- The document `apply_parameters` has validated, from the base candidate's. -/
def applyDocument (floats : FloatArithmetic F) (base : Value F) (space : SearchSpace F)
    (values : List (Text × Value F)) : Except (List (SpaceProblem F)) (Value F) :=
  let given := values.map Prod.fst
  if (∀ name ∈ given, name ∈ space.names) ∧ (∀ name ∈ space.names, name ∈ given) then
    match applyEach floats values space.parameters base with
    | (document, []) => .ok document
    | (_, problems) => .error problems
  else
    .error [.valuesFor (given.insertionSort (· ≤ ·)) (space.names.insertionSort (· ≤ ·))]

/-- `CandidateSpec.model_validate` is a parameter. -/
def applyParameters {C E : Type} (validate : Value F → Except E C) (floats : FloatArithmetic F)
    (base : Value F) (space : SearchSpace F) (values : List (Text × Value F)) :
    Except (List (SpaceProblem F) ⊕ E) C :=
  match applyDocument floats base space values with
  | .error problems => .error (.inl problems)
  | .ok document =>
      match validate document with
      | .error invalid => .error (.inr invalid)
      | .ok candidate => .ok candidate

end Xaytune.Search

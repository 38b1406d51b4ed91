import Xaytune.Agent.Conformance

/-!
# The check of a value is exact

Each part of the check reports exactly where its part of conformance fails, given that the walk
does so for the schemas inside; the fuel of the walk never runs out in a schema no deeper than it.
-/

namespace Xaytune.Agent

open Xaytune.Library Xaytune.Core

variable {F : Type} {python : PythonValues F} {schema value : Value F} {form : Form F}

/-! ## Inside a document -/

theorem mem_of_lookup {key : Text} {found : Value F} {entries : List (Text × Value F)}
    (isFound : entries.lookup key = some found) : (key, found) ∈ entries := by
  induction entries with
  | nil => cases isFound
  | cons entry entries ih =>
      obtain ⟨here, given⟩ := entry
      rw [List.lookup_cons] at isFound
      split at isFound
      · next same =>
          cases isFound
          rw [beq_iff_eq.mp same]
          exact List.mem_cons_self
      · exact List.mem_cons_of_mem _ (ih isFound)

theorem lookup_isSome_iff {key : Text} {entries : List (Text × Value F)} :
    (entries.lookup key).isSome ↔ key ∈ entries.map Prod.fst := by
  induction entries with
  | nil => simp
  | cons entry entries ih =>
      obtain ⟨here, given⟩ := entry
      rw [List.lookup_cons, List.map_cons, List.mem_cons]
      split
      · next same => simp [beq_iff_eq.mp same]
      · next differs =>
          rw [ih, or_iff_right (beq_eq_false_iff_ne.mp differs)]

theorem depth_of_mem {items : List (Value F)} {item : Value F} (member : item ∈ items) :
    depth item < depth (.seq items) := by
  rw [depth]
  have bound : depth item ≤ depthOfAll items := by
    induction items with
    | nil => cases member
    | cons first items ih =>
        rw [depthOfAll]
        rcases List.mem_cons.mp member with rfl | later
        · exact Nat.le_max_left _ _
        · exact (ih later).trans (Nat.le_max_right _ _)
  exact Nat.lt_succ_of_le bound

theorem depth_of_entry {entries : List (Text × Value F)} {entry : Text × Value F}
    (member : entry ∈ entries) : depth entry.2 < depth (.map entries) := by
  rw [depth]
  have bound : depth entry.2 ≤ depthOfEntries entries := by
    induction entries with
    | nil => cases member
    | cons first entries ih =>
        obtain ⟨key, item⟩ := first
        rw [depthOfEntries]
        rcases List.mem_cons.mp member with rfl | later
        · exact Nat.le_max_left _ _
        · exact (ih later).trans (Nat.le_max_right _ _)
  exact Nat.lt_succ_of_le bound

theorem depth_of_keyword {key : String} {found : Value F}
    (isFound : keyword? schema key = some found) : depth found < depth schema := by
  cases schema with
  | map entries => exact depth_of_entry (mem_of_lookup isFound)
  | _ => cases isFound

theorem distinct_of_keyword {key : String} {found : Value F}
    (isFound : keyword? schema key = some found) (distinct : schema.DistinctKeys) :
    found.DistinctKeys := by
  cases schema with
  | map entries =>
      rw [distinctKeys_map] at distinct
      exact distinct.2 _ (mem_of_lookup isFound)
  | _ => cases isFound

theorem distinct_of_mem {items : List (Value F)} {item : Value F} (member : item ∈ items)
    (distinct : (Value.seq items).DistinctKeys) : item.DistinctKeys := by
  rw [distinctKeys_seq] at distinct
  exact distinct item member

theorem distinct_of_entry {entries : List (Text × Value F)} {entry : Text × Value F}
    (member : entry ∈ entries) (distinct : (Value.map entries).DistinctKeys) :
    entry.2.DistinctKeys := by
  rw [distinctKeys_map] at distinct
  exact distinct.2 entry member

/-- The schemas of the parts lie in the node's keywords. -/
theorem child_inside (reads : form? schema = some form) {child : Value F}
    (member : child ∈ form.children) :
    depth child < depth schema ∧ (schema.DistinctKeys → child.DistinctKeys) := by
  cases form with
  | anyOf alternatives =>
      have found := keyword_of_form reads
      exact ⟨(depth_of_mem member).trans (depth_of_keyword found), fun distinct =>
        distinct_of_mem member (distinct_of_keyword found distinct)⟩
  | object properties required =>
      obtain ⟨entry, isEntry, rfl⟩ := List.mem_map.mp member
      have isProperties := (object_of_form reads).1
      unfold properties? at isProperties
      cases found : keyword? schema "properties" with
      | none =>
          rw [found] at isProperties
          cases isProperties
          cases isEntry
      | some given =>
          rw [found] at isProperties
          cases given with
          | map entries =>
              cases isProperties
              exact ⟨(depth_of_entry isEntry).trans (depth_of_keyword found), fun distinct =>
                distinct_of_entry isEntry (distinct_of_keyword found distinct)⟩
          | _ => cases isProperties
  | array child =>
      have found := items_of_form reads
      rw [List.mem_singleton.mp member]
      exact ⟨depth_of_keyword found, distinct_of_keyword found⟩
  | _ => cases member

theorem encode_eq_iff {other : Value F} (distinct : value.DistinctKeys)
    (distinct' : other.DistinctKeys) :
    encode python.reprFloat value = encode python.reprFloat other ↔ value.Same other :=
  encode_inj_iff python.repr_injective python.repr_plain distinct distinct'

/-! ## Limits and literals -/

theorem checkLimit_reports {limit : Option (Value F)} {broken : ℚ → Prop} [DecidablePred broken]
    {message : Text}
    (numeric : ∀ given, limit = some given → ∃ number, number? python given = some number) :
    Reports (checkLimit python limit (fun bound => decide (broken bound)) message)
      (Within python limit fun bound => ¬ broken bound) := by
  unfold checkLimit
  cases limit with
  | none => exact reports_ok (by simp [Within])
  | some given =>
      obtain ⟨number, isNumber⟩ := numeric given rfl
      simp only [isNumber, decide_eq_true_eq]
      apply reports_unless.congr
      constructor
      · intro allowed given' bound same isBound
        cases same
        rw [isNumber] at isBound
        cases isBound
        exact allowed
      · intro within
        exact within given number rfl isNumber

theorem number_of_size {given : Value F} {size : Nat} (isSize : size? given = some size) :
    number? python given = some (size : ℚ) := by
  unfold size? at isSize
  split at isSize
  · cases isSize
    simp [number?]
  · cases isSize

theorem sizeLimit_numeric {key : String}
    (sizes : ∀ given, keyword? schema key = some given → ∃ size, size? given = some size) :
    ∀ given, sizeLimit schema key = some given →
      ∃ number, number? python given = some number := by
  intro given isLimit
  unfold sizeLimit Agent.get at isLimit
  cases found : keyword? schema key with
  | none =>
      rw [found] at isLimit
      cases isLimit
  | some limit =>
      obtain ⟨size, isSize⟩ := sizes limit found
      have isGiven : limit = given := by
        rw [found, Option.getD_some] at isLimit
        split at isLimit
        · cases isLimit
        · exact Option.some.inj isLimit
      rw [← isGiven]
      exact ⟨size, number_of_size isSize⟩

theorem checkSize_reports {low high unit : String} {size : Nat} {path : Text}
    (formed : SizesFormed schema low high) :
    Reports (checkSize python size schema low high unit path)
      (SizeFits python schema low high size) := by
  have least := formed.sizes low (by simp)
  have most := formed.sizes high (by simp)
  unfold checkSize
  refine (checkLimit_reports (sizeLimit_numeric least)).before fun small isSmall => ?_
  refine (checkLimit_reports (sizeLimit_numeric most)).before fun large isLarge => reports_ok ?_
  rw [List.append_eq_nil_iff, isSmall, isLarge]
  simp only [not_lt]
  exact ⟨fun both => ⟨both.1, both.2⟩, fun fits => ⟨fits.least, fits.most⟩⟩

theorem checkBounds_reports {number : ℚ} {path : Text}
    (numeric : ∀ bound ∈ bounds, ∀ given, keyword? schema bound = some given →
      ∃ number, number? python given = some number) :
    Reports (checkBounds python number schema path) (InBounds python schema number) := by
  have minimum := numeric "minimum" (by simp [bounds])
  have maximum := numeric "maximum" (by simp [bounds])
  have above := numeric "exclusiveMinimum" (by simp [bounds])
  have below := numeric "exclusiveMaximum" (by simp [bounds])
  unfold checkBounds
  refine (checkLimit_reports minimum).before fun low isLow => ?_
  refine (checkLimit_reports maximum).before fun high isHigh => ?_
  refine (checkLimit_reports above).before fun strict isStrict => ?_
  refine (checkLimit_reports below).before fun under isUnder => reports_ok ?_
  simp only [List.append_eq_nil_iff, isLow, isHigh, isStrict, isUnder, not_lt, not_le]
  constructor
  · rintro ⟨⟨⟨isLow, isHigh⟩, isStrict⟩, isUnder⟩
    exact ⟨isLow, isHigh, isStrict, isUnder⟩
  · intro inside
    exact ⟨⟨⟨inside.minimum, inside.maximum⟩, inside.above⟩, inside.below⟩

theorem checkConst_iff {path : Text} (distinct : schema.DistinctKeys)
    (isValue : value.DistinctKeys) :
    checkConst python schema value path = [] ↔
      ∀ only, keyword? schema "const" = some only → value.Same only := by
  unfold checkConst
  cases found : keyword? schema "const" with
  | none => simp
  | some only =>
      have typed : encode python.reprFloat value = encode python.reprFloat only ↔ _ :=
        encode_eq_iff isValue (distinct_of_keyword found distinct)
      by_cases same : value.Same only
      · simp [typed.mpr same, same]
      · simp [mt typed.mp same, same]

theorem checkEnum_reports {path : Text} (distinct : schema.DistinctKeys)
    (isValue : value.DistinctKeys)
    (enum : ∀ given, keyword? schema "enum" = some given →
      ∃ first others, given = .seq (first :: others)) :
    Reports (checkEnum python schema value path)
      (∀ options, keyword? schema "enum" = some (.seq options) →
        ∃ option ∈ options, value.Same option) := by
  unfold checkEnum
  cases found : keyword? schema "enum" with
  | none => exact reports_ok (by simp)
  | some given =>
      obtain ⟨first, others, rfl⟩ := enum given found
      generalize first :: others = options at found
      have members : encode python.reprFloat value ∈ options.map (encode python.reprFloat) ↔
          ∃ option ∈ options, value.Same option := by
        rw [List.mem_map]
        apply exists_congr
        intro option
        apply and_congr_right
        intro member
        rw [eq_comm]
        exact encode_eq_iff isValue (distinct_of_mem member (distinct_of_keyword found distinct))
      apply reports_ok
      by_cases isMember : ∃ option ∈ options, value.Same option
      · rw [if_pos (members.mpr isMember)]
        simpa using isMember
      · rw [if_neg (mt members.mp isMember)]
        simpa using isMember

/-! ## The walk, one node after the other -/

/-- The walk is exact on a schema. -/
def Exact (python : PythonValues F) (run : Value F → Value F → Text → Except PythonError Violations)
    (schema : Value F) : Prop :=
  ∀ value path, value.DistinctKeys → Reports (run schema value path) (Conforms python schema value)

section Walk

variable {again : Value F → Value F → Text → Except PythonError Violations}
  {couldBe : Value F → Value F → Except PythonError Bool}

theorem checkProperties_reports {properties fields : List (Text × Value F)} {path : Text}
    (inside : ∀ child ∈ properties.map Prod.snd, Exact python again child)
    (distinct : (Value.map fields).DistinctKeys) :
    Reports (checkProperties python again properties fields path)
      ((∀ name ∈ fields.map Prod.fst, name ∈ properties.map Prod.fst) ∧
        ∀ name child given, properties.lookup name = some child →
          fields.lookup name = some given → Conforms python child given) := by
  unfold checkProperties
  have each : ∀ name ∈ sortedKeys fields,
      Reports (checkProperty python again properties fields path name)
        (name ∈ properties.map Prod.fst ∧ ∀ child given, properties.lookup name = some child →
          fields.lookup name = some given → Conforms python child given) := by
    intro name member
    unfold checkProperty
    have isField := lookup_isSome_iff.mpr (mem_sortedKeys.mp member)
    obtain ⟨given, isGiven⟩ := Option.isSome_iff_exists.mp isField
    cases found : properties.lookup name with
    | none =>
        have undeclared : name ∉ properties.map Prod.fst := by
          rw [← lookup_isSome_iff, found]
          exact Bool.false_ne_true
        exact reports_ok (by simp [undeclared])
    | some child =>
        have declared : name ∈ properties.map Prod.fst := by
          rw [← lookup_isSome_iff, found]
          rfl
        rw [isGiven]
        have isChild : child ∈ properties.map Prod.snd :=
          List.mem_map.mpr ⟨_, mem_of_lookup found, rfl⟩
        have isValue := distinct_of_entry (mem_of_lookup isGiven) distinct
        refine (inside child isChild given _ isValue).congr ?_
        constructor
        · intro conforms
          refine ⟨declared, fun child' given' same same' => ?_⟩
          cases same
          cases same'
          exact conforms
        · intro both
          exact both.2 child given rfl rfl
  refine (reports_flatten each).congr ?_
  simp only [mem_sortedKeys]
  constructor
  · intro all
    refine ⟨fun name member => (all name member).1, fun name child given isChild isGiven => ?_⟩
    have isField := lookup_isSome_iff.mp (Option.isSome_iff_exists.mpr ⟨given, isGiven⟩)
    exact (all name isField).2 child given isChild isGiven
  · intro both name member
    exact ⟨both.1 name member, both.2 name⟩

/-- What the form asks of the value, beside the literals of the node. -/
def FormFits (python : PythonValues F) (schema : Value F) : Form F → Value F → Prop
  | .anyOf alternatives, value => ∃ alternative ∈ alternatives, Conforms python alternative value
  | .object properties required, .map fields =>
      (∀ name ∈ required, name ∈ fields.map Prod.fst) ∧
        (∀ name ∈ fields.map Prod.fst, name ∈ properties.map Prod.fst) ∧
          ∀ name child given, properties.lookup name = some child →
            fields.lookup name = some given → Conforms python child given
  | .array child, .seq items =>
      SizeFits python schema "minItems" "maxItems" items.length ∧
        ∀ item ∈ items, Conforms python child item
  | .string, .str letters => SizeFits python schema "minLength" "maxLength" letters.length
  | .integer, .int given => InBounds python schema given
  | .number, value => ∃ given, number? python value = some given ∧ InBounds python schema given
  | .boolean, .bool _ => True
  | .null, .null => True
  | _, _ => False

theorem conforms_iff (reads : form? schema = some form) :
    Conforms python schema value ↔ FitsLiterals schema value ∧
      FormFits python schema form value := by
  constructor
  · intro conforms
    cases conforms with
    | anyOf reads' fits member inside =>
        obtain rfl := Option.some.inj (reads'.symm.trans reads)
        exact ⟨fits, _, member, inside⟩
    | object reads' fits present closed inside =>
        obtain rfl := Option.some.inj (reads'.symm.trans reads)
        exact ⟨fits, present, closed, inside⟩
    | array reads' fits size inside =>
        obtain rfl := Option.some.inj (reads'.symm.trans reads)
        exact ⟨fits, size, inside⟩
    | string reads' fits size =>
        obtain rfl := Option.some.inj (reads'.symm.trans reads)
        exact ⟨fits, size⟩
    | integer reads' fits inside =>
        obtain rfl := Option.some.inj (reads'.symm.trans reads)
        exact ⟨fits, inside⟩
    | number reads' fits isNumber inside =>
        obtain rfl := Option.some.inj (reads'.symm.trans reads)
        exact ⟨fits, _, isNumber, inside⟩
    | boolean reads' fits | null reads' fits =>
        obtain rfl := Option.some.inj (reads'.symm.trans reads)
        exact ⟨fits, trivial⟩
  · rintro ⟨fits, asked⟩
    unfold FormFits at asked
    split at asked
    · obtain ⟨alternative, member, inside⟩ := asked
      exact .anyOf reads fits member inside
    · exact .object reads fits asked.1 asked.2.1 asked.2.2
    · exact .array reads fits asked.1 asked.2
    · exact .string reads fits asked
    · exact .integer reads fits asked
    · obtain ⟨given, isNumber, inside⟩ := asked
      exact .number reads fits isNumber inside
    · exact .boolean reads fits
    · exact .null reads fits
    · exact asked.elim

theorem texts_eq {items : List (Value F)} {names : List Text}
    (isTexts : texts? items = some names) :
    items = names.map .str := by
  induction items generalizing names with
  | nil =>
      cases isTexts
      rfl
  | cons item items ih =>
      unfold texts? at isTexts ih
      rw [List.mapM_cons] at isTexts
      simp only [Option.bind_eq_bind, Option.bind_eq_some_iff] at isTexts
      obtain ⟨name, isName, names', others, same⟩ := isTexts
      cases same
      cases item with
      | str letters =>
          cases isName
          rw [ih others]
          rfl
      | _ => cases isName

theorem checkObjectValue_reports {properties fields : List (Text × Value F)} {required : List Text}
    {path : Text} (reads : form? schema = some (.object properties required))
    (inside : ∀ child ∈ properties.map Prod.snd, Exact python again child)
    (distinct : (Value.map fields).DistinctKeys) :
    Reports (checkObjectValue python again schema fields path)
      (FormFits python schema (.object properties required) (.map fields)) := by
  obtain ⟨isProperties, isRequired⟩ := object_of_form reads
  unfold properties? at isProperties
  unfold required? at isRequired
  unfold checkObjectValue
  generalize (keyword? schema "properties").getD (.map []) = given at isProperties
  generalize (keyword? schema "required").getD (.seq []) = names at isRequired
  cases given with
  | map entries =>
      cases isProperties
      cases names with
      | seq items =>
          rw [texts_eq isRequired]
          refine (checkProperties_reports inside distinct).before fun found isFound => reports_ok ?_
          rw [List.append_eq_nil_iff, isFound, FormFits]
          apply and_congr_left
          intro _
          rw [List.flatMap_eq_nil_iff, List.forall_mem_map]
          apply forall₂_congr
          intro name _
          by_cases present : name ∈ fields.map Prod.fst <;> simp [missingName, present]
      | _ => cases isRequired
  | _ => cases isProperties

theorem checkItems_reports {child : Value F} {items : List (Value F)} {path : Text}
    (isItems : keyword? schema "items" = some child) (inside : Exact python again child)
    (distinct : (Value.seq items).DistinctKeys) :
    Reports (checkItems again schema items path) (∀ item ∈ items, Conforms python child item) := by
  unfold checkItems
  have each : ∀ entry ∈ items.zipIdx, Reports (checkItem again schema path entry)
      (Conforms python child entry.1) := by
    intro entry member
    unfold checkItem
    rw [isItems]
    exact inside _ _ (distinct_of_mem (List.fst_mem_of_mem_zipIdx member) distinct)
  refine (reports_flatten each).congr ?_
  have firsts : items.zipIdx.map Prod.fst = items := List.zipIdx_map_fst _ _
  rw [← List.forall_mem_map (P := fun item => Conforms python child item), firsts]

theorem number_fits {given : ℚ} (isNumber : number? python value = some given) :
    FormFits python schema .number value ↔ InBounds python schema given := by
  rw [FormFits]
  constructor
  · rintro ⟨_, same, inside⟩
    rw [isNumber] at same
    cases same
    exact inside
  · intro inside
    exact ⟨given, isNumber, inside⟩

theorem checkByType_reports {kind : Kind} {path : Text} (wellFormed : WellFormed python schema form)
    (isKind : form.kind = some kind) (accepts : kind.has value = true)
    (inside : ∀ child ∈ form.children, Exact python again child)
    (distinct : value.DistinctKeys) :
    Reports (checkByType python again schema value path) (FormFits python schema form value) := by
  have named := kind_of_form wellFormed.reads
  have parts := wellFormed.parts
  unfold checkByType
  rw [named]
  cases form with
  | anyOf alternatives => cases isKind
  | object properties required =>
      cases isKind
      cases value with
      | map fields => exact checkObjectValue_reports wellFormed.reads inside distinct
      | _ => cases accepts
  | array child =>
      cases isKind
      cases value with
      | seq items =>
          have isItems := items_of_form wellFormed.reads
          have within := inside child List.mem_cons_self
          refine (checkSize_reports parts).before fun sizes isSize => ?_
          refine (checkItems_reports isItems within distinct).before fun found isFound =>
            reports_ok ?_
          rw [List.append_eq_nil_iff, isSize, isFound, FormFits]
      | _ => cases accepts
  | string =>
      cases isKind
      cases value with
      | str letters => exact checkSize_reports parts
      | _ => cases accepts
  | integer =>
      cases isKind
      cases value with
      | int given => exact checkBounds_reports parts
      | _ => cases accepts
  | number =>
      cases isKind
      cases value with
      | int | float =>
          exact (checkBounds_reports parts).congr (number_fits rfl).symm
      | _ => cases accepts
  | boolean =>
      cases isKind
      cases value with
      | bool given => exact reports_ok (by simp [FormFits])
      | _ => cases accepts
  | null =>
      cases isKind
      cases value with
      | null => exact reports_ok (by simp [FormFits])
      | _ => cases accepts

/-- What the form asks for behind the first check, which an alternative has passed. -/
theorem checkRest_reports {path : Text} {asked : Prop} (distinct : schema.DistinctKeys)
    (isValue : value.DistinctKeys) (formed : LiteralsFormed python schema)
    (byType : Reports (checkByType python again schema value path) asked) :
    Reports (checkRest python again schema value path) (FitsLiterals schema value ∧ asked) := by
  unfold checkRest
  refine (checkEnum_reports distinct isValue formed.enum).before fun options isOption => ?_
  refine byType.before fun found isFound => reports_ok ?_
  rw [List.append_eq_nil_iff, List.append_eq_nil_iff, checkConst_iff distinct isValue, isOption,
    isFound]
  exact and_congr_left' ⟨fun both => ⟨both.1, both.2⟩, fun fits => ⟨fits.const, fits.enum⟩⟩

/-! ## Alternatives -/

/-- The computation succeeds. -/
def Returns {α ε : Type} (run : Except ε α) : Prop := ∃ result, run = .ok result

theorem decides_of_returns {ε : Type} {run : Except ε Bool} (returns : Returns run) :
    Decides run (run = .ok true) := by
  obtain ⟨result, rfl⟩ := returns
  exact ⟨result, rfl, by simp⟩

theorem select_returns {test : Value F → Except PythonError Bool} {items : List (Value F)}
    (each : ∀ item ∈ items, Returns (test item)) :
    ∃ kept, select test items = .ok kept ∧ ∀ item ∈ kept, item ∈ items := by
  induction items with
  | nil => exact ⟨[], rfl, by simp⟩
  | cons item items ih =>
      obtain ⟨⟨passes, first⟩, rest⟩ := List.forall_mem_cons.mp each
      obtain ⟨kept, others, inside⟩ := ih rest
      refine ⟨if passes then item :: kept else kept, ?_, ?_⟩
      · rw [select, first, others]
        rfl
      · intro found member
        split at member
        · rcases List.mem_cons.mp member with rfl | later
          · exact List.mem_cons_self
          · exact List.mem_cons_of_mem _ (inside found later)
        · exact List.mem_cons_of_mem _ (inside found member)

/-- Where no alternative fits, the explanation names something. -/
theorem explainAlternatives_reports {alternatives : List (Value F)} {path : Text}
    (inside : ∀ alternative ∈ alternatives, Exact python again alternative)
    (guesses : ∀ alternative ∈ alternatives, Returns (couldBe alternative value))
    (isValue : value.DistinctKeys)
    (unfit : ¬ ∃ alternative ∈ alternatives, Conforms python alternative value) :
    Reports (explainAlternatives again couldBe alternatives value path) False := by
  obtain ⟨meant, selected, kept⟩ := select_returns guesses
  unfold explainAlternatives
  rw [selected]
  cases meant with
  | nil => exact reports_ok (by simp)
  | cons option others =>
      cases others with
      | nil =>
          have member := kept option List.mem_cons_self
          refine (inside option member value path isValue).congr ?_
          exact iff_of_false (fun conforms => unfit ⟨option, member, conforms⟩) not_false
      | cons other others => exact reports_ok (by simp)

theorem has_of_formFits {kind : Kind} (isKind : form.kind = some kind)
    (fits : FormFits python schema form value) : kind.has value = true := by
  unfold FormFits at fits
  split at fits
  · cases isKind
  · cases isKind
    rfl
  · cases isKind
    rfl
  · cases isKind
    rfl
  · cases isKind
    rfl
  · cases isKind
    obtain ⟨given, isNumber, _⟩ := fits
    cases value <;> first | rfl | cases isNumber
  · cases isKind
    rfl
  · cases isKind
    rfl
  · exact fits.elim

theorem checkAlternatives_reports {alternatives : List (Value F)} {path : Text}
    (reads : form? schema = some (.anyOf alternatives)) (formed : LiteralsFormed python schema)
    (distinct : schema.DistinctKeys) (isValue : value.DistinctKeys)
    (inside : ∀ alternative ∈ alternatives, Exact python again alternative)
    (guesses : ∀ alternative ∈ alternatives, ∀ value, Returns (couldBe alternative value)) :
    Reports (do
        let fits ← alternatives.anyM (fitsOption again value)
        if fits then checkRest python again schema value path
        else explainAlternatives again couldBe alternatives value path)
      (Conforms python schema value) := by
  have noKind := kind_of_form reads
  have each : ∀ alternative ∈ alternatives, Decides (fitsOption again value alternative)
      (Conforms python alternative value) := by
    intro alternative member
    obtain ⟨found, ran, iff⟩ := inside alternative member value (text "$") isValue
    refine ⟨found.isEmpty, ?_, ?_⟩
    · rw [fitsOption, ran]
      rfl
    · rw [List.isEmpty_iff, iff]
  obtain ⟨fits, ran, fits_iff⟩ := decides_anyM each
  rw [ran, conforms_iff reads, FormFits]
  cases fits with
  | true =>
      have nothing : Reports (checkByType python again schema value path) True := by
        unfold checkByType
        rw [noKind]
        exact reports_ok (by simp)
      refine (checkRest_reports distinct isValue formed nothing).congr ?_
      exact and_congr_right fun _ => iff_of_true trivial (fits_iff.mp rfl)
  | false =>
      have unfit : ¬ ∃ alternative ∈ alternatives, Conforms python alternative value :=
        fun fitting => Bool.false_ne_true (fits_iff.mpr fitting)
      refine (explainAlternatives_reports inside (fun child member => guesses child member value)
        isValue unfit).congr ?_
      exact iff_of_false not_false fun both => unfit both.2

theorem checkValueStep_exact (wellFormed : WellFormed python schema form)
    (formed : LiteralsFormed python schema) (distinct : schema.DistinctKeys)
    (inside : ∀ child ∈ form.children, Exact python again child)
    (guesses : ∀ child ∈ form.children, ∀ value, Returns (couldBe child value)) :
    Exact python (checkValueStep python again couldBe) schema := by
  intro value path isValue
  have reads := wellFormed.reads
  obtain ⟨entries, isMap⟩ := mapping_of_form reads
  unfold checkValueStep
  rw [isMap]
  dsimp only
  rw [← isMap]
  cases isKind : form.kind with
  | none =>
      cases form with
      | anyOf alternatives =>
          rw [keyword_of_form reads]
          exact checkAlternatives_reports reads formed distinct isValue inside guesses
      | _ => cases isKind
  | some kind =>
      have named := kind_of_form reads
      rw [isKind] at named
      rw [typed_of_form isKind reads, conforms_iff reads]
      cases found : keyword? schema "type" with
      | none =>
          rw [Agent.get, found] at named
          cases named
      | some given =>
          rw [Agent.get, found, Option.getD_some] at named
          dsimp only
          rw [hasType, named, Option.getD_some]
          cases accepts : kind.has value with
          | true =>
              exact checkRest_reports distinct isValue formed
                (checkByType_reports wellFormed isKind accepts inside isValue)
          | false =>
              apply reports_ok
              refine iff_of_false (List.cons_ne_nil _ _) fun both => ?_
              rw [has_of_formFits isKind both.2] at accepts
              cases accepts

end Walk

/-! ## The walks end -/

theorem Supported.mapping (supported : Supported python schema) :
    ∃ entries, schema = .map entries := by
  cases supported with
  | node wellFormed _ _ => exact mapping_of_form wellFormed.reads

theorem agreesWithConst_returns (fields : List (Text × Value F)) {property : Text × Value F}
    (supported : Supported python property.2) :
    Returns (agreesWithConst python fields property) := by
  obtain ⟨entries, isMap⟩ := supported.mapping
  unfold agreesWithConst
  rw [isMap]
  cases keyword? (.map entries) "const" with
  | none => exact ⟨_, rfl⟩
  | some only =>
      cases fields.lookup property.1 with
      | none => exact ⟨_, rfl⟩
      | some given => exact ⟨_, rfl⟩

theorem couldBeTyped_returns {kind : Kind} {given : Value F}
    (wellFormed : WellFormed python schema form)
    (children : ∀ child ∈ form.children, Supported python child) (isKind : form.kind = some kind)
    (named : kindNamed given = some kind) (accepts : kind.has value = true) :
    Returns (couldBeTyped python given schema value) := by
  unfold couldBeTyped
  rw [named]
  cases form with
  | object properties required =>
      cases isKind
      have isProperties := (object_of_form wellFormed.reads).1
      unfold properties? at isProperties
      generalize (keyword? schema "properties").getD (.map []) = found at isProperties
      cases value with
      | map fields =>
          cases found with
          | map entries =>
              cases isProperties
              obtain ⟨result, ran, _⟩ := decides_allM fun property member =>
                decides_of_returns (agreesWithConst_returns fields
                  (children _ (List.mem_map.mpr ⟨property, member, rfl⟩)))
              exact ⟨result, ran⟩
          | _ => cases isProperties
      | _ => cases accepts
  | anyOf alternatives => cases isKind
  | _ =>
      cases isKind
      exact ⟨true, rfl⟩

theorem couldBe_returns (supported : Supported python schema) :
    ∀ fuel, depth schema ≤ fuel → ∀ value, Returns (couldBe python fuel schema value) := by
  induction supported with
  | @node schema form wellFormed children _ ih =>
      intro fuel enough value
      have reads := wellFormed.reads
      cases fuel with
      | zero =>
          obtain ⟨entries, rfl⟩ := mapping_of_form reads
          simp [depth] at enough
      | succ fuel =>
          have shallow : ∀ child ∈ form.children, depth child ≤ fuel := fun child member =>
            Nat.le_of_lt_succ ((child_inside reads member).1.trans_le enough)
          unfold couldBe
          cases isKind : form.kind with
          | none =>
              cases form with
              | anyOf alternatives =>
                  rw [keyword_of_form reads]
                  obtain ⟨result, ran, _⟩ := decides_anyM fun alternative member =>
                    decides_of_returns
                      (ih alternative member fuel (shallow alternative member) value)
                  exact ⟨result, ran⟩
              | _ => cases isKind
          | some kind =>
              have named := kind_of_form reads
              rw [isKind] at named
              rw [typed_of_form isKind reads]
              cases found : keyword? schema "type" with
              | none =>
                  rw [Agent.get, found] at named
                  cases named
              | some given =>
                  rw [Agent.get, found, Option.getD_some] at named
                  dsimp only
                  rw [hasType, named, Option.getD_some]
                  split
                  · next accepts =>
                      exact couldBeTyped_returns wellFormed children isKind named accepts
                  · exact ⟨false, rfl⟩

/-- `_check_value` is exact on every supported schema, in whatever fuel it needs. -/
theorem checkValue_exact (supported : Supported python schema) :
    ∀ fuel, depth schema ≤ fuel → schema.DistinctKeys →
      Exact python (checkValue python fuel) schema := by
  induction supported with
  | @node schema form wellFormed children formed ih =>
      intro fuel enough distinct
      have reads := wellFormed.reads
      cases fuel with
      | zero =>
          obtain ⟨entries, rfl⟩ := mapping_of_form reads
          simp [depth] at enough
      | succ fuel =>
          have shallow : ∀ child ∈ form.children, depth child ≤ fuel := fun child member =>
            Nat.le_of_lt_succ ((child_inside reads member).1.trans_le enough)
          refine checkValueStep_exact wellFormed formed distinct ?_ ?_
          · intro child member
            exact ih child member fuel (shallow child member)
              ((child_inside reads member).2 distinct)
          · intro child member
            exact couldBe_returns (children child member) fuel (shallow child member)

theorem schemaViolations_reports (supported : Supported python schema)
    (distinct : schema.DistinctKeys) (isValue : value.DistinctKeys) :
    Reports (schemaViolations python schema value) (Conforms python schema value) :=
  checkValue_exact supported _ (Nat.le_refl _) distinct value _ isValue

end Xaytune.Agent

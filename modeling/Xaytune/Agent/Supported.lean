import Xaytune.Agent.Answers

/-!
# The check of a schema is exact

`check_response_schema` refuses exactly what lies outside the subset, and fails in no other way.
The literals of a node are checked only once the rest of the node is known to be of the subset, so
the check of values they run through is exact there.
-/

namespace Xaytune.Agent

open Xaytune.Library Xaytune.Core

variable {F : Type} {python : PythonValues F} {schema : Value F} {path : Text}

/-! ## Lists of reasons -/

theorem filterMap_eq_nil_iff {α β : Type} {reason : α → Option β} {holds : α → Prop}
    {items : List α} (each : ∀ item ∈ items, reason item = none ↔ holds item) :
    items.filterMap reason = [] ↔ ∀ item ∈ items, holds item := by
  rw [List.filterMap_eq_nil_iff]
  exact forall₂_congr each

theorem checkAnnotations_iff : checkAnnotations schema path = [] ↔
    ∀ annotation ∈ ["title", "description"], ∀ given,
      keyword? schema annotation = some given → ∃ letters, given = .str letters := by
  unfold checkAnnotations
  apply filterMap_eq_nil_iff
  intro annotation _
  cases keyword? schema annotation with
  | none => simp
  | some given => cases given <;> simp

theorem unsupportedKeywords_iff {keys : List Text} {allowed : List String} :
    unsupportedKeywords python keys allowed path = [] ↔ ∀ key ∈ keys, key ∈ allowed.map text := by
  unfold unsupportedKeywords
  rw [List.map_eq_nil_iff, ← List.length_eq_zero_iff, List.length_insertionSort,
    List.length_eq_zero_iff, List.filter_eq_nil_iff]
  simp only [decide_eq_true_eq, not_not]

theorem orderReasons_iff {low high : String} : orderReasons schema low high path = [] ↔
    ∀ least most, size? (get schema low) = some least → size? (get schema high) = some most →
      least ≤ most := by
  unfold orderReasons
  cases size? (get schema low) with
  | none => simp
  | some least =>
      cases size? (get schema high) with
      | none => simp
      | some most =>
          by_cases less : most < least
          · simp [less]
          · simp [less, Nat.le_of_not_lt less]

theorem checkSizes_iff {low high : String} :
    checkSizes schema low high path = [] ↔ SizesFormed schema low high := by
  have sizes : [low, high].filterMap (sizeReason schema path) = [] ↔
      ∀ key ∈ [low, high], ∀ given, keyword? schema key = some given →
        ∃ size, size? given = some size := by
    apply filterMap_eq_nil_iff
    intro name _
    unfold sizeReason
    cases keyword? schema name with
    | none => simp
    | some given => cases isSize : size? given <;> simp [isSize]
  rw [checkSizes, List.append_eq_nil_iff, sizes, orderReasons_iff]
  exact ⟨fun both => ⟨both.1, both.2⟩, fun formed => ⟨formed.sizes, formed.ordered⟩⟩

theorem checkLimits_iff : checkLimits python schema path = [] ↔
    ∀ bound ∈ bounds, ∀ given, keyword? schema bound = some given →
      ∃ number, number? python given = some number := by
  unfold checkLimits
  apply filterMap_eq_nil_iff
  intro bound _
  cases keyword? schema bound with
  | none => simp
  | some given => cases isNumber : number? python given <;> simp [isNumber]

theorem checkRequired_iff {properties : List (Text × Value F)} :
    checkRequired python properties schema path = [] ↔ ∃ required,
      required? schema = some required ∧
      required.Nodup ∧ ∀ name ∈ required, name ∈ properties.map Prod.fst := by
  unfold checkRequired required?
  generalize (keyword? schema "required").getD (.seq []) = given
  cases given with
  | seq items =>
      dsimp only
      cases texts? items with
      | none => simp
      | some names =>
          have declared : names.filterMap (undeclared python properties path) = [] ↔
              ∀ name ∈ names, name ∈ properties.map Prod.fst := by
            apply filterMap_eq_nil_iff
            intro name _
            by_cases isDeclared : name ∈ properties.map Prod.fst <;> simp [undeclared, isDeclared]
          dsimp only
          rw [List.append_eq_nil_iff, declared]
          by_cases distinct : names.Nodup <;> simp [distinct]
  | _ => simp

theorem checkClosed_iff : checkClosed schema path = [] ↔
    ∀ given, keyword? schema "additionalProperties" = some given → given = .bool false := by
  unfold checkClosed
  cases keyword? schema "additionalProperties" with
  | none => simp
  | some given =>
      cases given with
      | bool value => cases value <;> simp
      | _ => simp

/-! ## The parts of a node -/

section Walk

variable {check : Value F → Text → Except PythonError Reasons}

/-- The walk is exact on every schema inside this one. -/
def ExactInside (python : PythonValues F) (check : Value F → Text → Except PythonError Reasons)
    (schema : Value F) : Prop :=
  ∀ child path, depth child < depth schema → child.DistinctKeys →
    Reports (check child path) (Supported python child)

theorem checkAll_reports {nodes : List (Value F × Text)}
    (each : ∀ node ∈ nodes, Reports (check node.1 node.2) (Supported python node.1)) :
    Reports (checkAll check nodes) (∀ child ∈ nodes.map Prod.fst, Supported python child) := by
  unfold checkAll
  refine (reports_flatten each).congr ?_
  rw [List.forall_mem_map]

/-- What a node of the type says of its parts, the schemas among them supported. -/
def KindFormed (python : PythonValues F) (schema : Value F) : Option Kind → Prop
  | some .object => ∃ properties required, properties? schema = some properties ∧
      required? schema = some required ∧
        (∀ child ∈ properties.map Prod.snd, Supported python child) ∧
        PartsFormed python schema (.object properties required)
  | some .array => ∃ child, keyword? schema "items" = some child ∧ Supported python child ∧
      PartsFormed python schema (.array child)
  | some .string => PartsFormed python schema .string
  | some .integer => PartsFormed python schema .integer
  | some .number => PartsFormed python schema .number
  | some .boolean | some .null | none => True

theorem checkObject_reports (inside : ExactInside python check schema)
    (distinct : schema.DistinctKeys) :
    Reports (checkObject python check schema path) (KindFormed python schema (some .object)) := by
  unfold checkObject
  have isGiven : ∀ properties, (keyword? schema "properties").getD (.map []) = .map properties →
      ∀ entry ∈ properties, depth entry.2 < depth schema ∧ entry.2.DistinctKeys := by
    intro properties given entry member
    cases found : keyword? schema "properties" with
    | none =>
        rw [found] at given
        cases given
        cases member
    | some value =>
        rw [found, Option.getD_some] at given
        subst given
        exact ⟨(depth_of_entry member).trans (depth_of_keyword found),
          distinct_of_entry member (distinct_of_keyword found distinct)⟩
  cases given : (keyword? schema "properties").getD (.map []) with
  | map properties =>
      have each : ∀ node ∈ properties.map fun entry => (entry.2, path ++ text "." ++ entry.1),
          Reports (check node.1 node.2) (Supported python node.1) := by
        rw [List.forall_mem_map]
        intro entry member
        obtain ⟨shallow, isDistinct⟩ := isGiven properties given entry member
        exact inside _ _ shallow isDistinct
      refine (checkAll_reports each).before fun children areChildren => reports_ok ?_
      rw [List.append_eq_nil_iff, List.append_eq_nil_iff, areChildren,
        checkRequired_iff, checkClosed_iff, List.map_map]
      simp only [KindFormed, properties?, given, PartsFormed, Option.some.injEq]
      constructor
      · rintro ⟨⟨children, required, isRequired, nodup, declared⟩, closed⟩
        exact ⟨_, required, rfl, isRequired, children, nodup, declared, closed⟩
      · rintro ⟨_, required, rfl, isRequired, children, nodup, declared, closed⟩
        exact ⟨⟨children, required, isRequired, nodup, declared⟩, closed⟩
  | _ =>
      refine ⟨_, rfl, ?_⟩
      simp [KindFormed, properties?, given]

theorem checkArray_reports (inside : ExactInside python check schema)
    (distinct : schema.DistinctKeys) :
    Reports (checkArray check schema path) (KindFormed python schema (some .array)) := by
  unfold checkArray
  cases found : keyword? schema "items" with
  | none =>
      refine ⟨_, rfl, ?_⟩
      simp [KindFormed, found]
  | some child =>
      have isChild := inside child (path ++ text "[]") (depth_of_keyword found)
        (distinct_of_keyword found distinct)
      refine isChild.before fun reasons areReasons => reports_ok ?_
      rw [List.append_eq_nil_iff, areReasons, checkSizes_iff]
      simp only [KindFormed, found, Option.some.injEq, PartsFormed]
      constructor
      · intro both
        exact ⟨child, rfl, both⟩
      · rintro ⟨_, rfl, both⟩
        exact both

theorem checkKind_reports {kind : Option Kind} (inside : ExactInside python check schema)
    (distinct : schema.DistinctKeys) :
    Reports (checkKind python check kind schema path) (KindFormed python schema kind) := by
  unfold checkKind
  split
  · exact checkObject_reports inside distinct
  · exact checkArray_reports inside distinct
  · exact reports_ok checkSizes_iff
  · exact reports_ok checkLimits_iff
  · exact reports_ok checkLimits_iff
  all_goals exact reports_ok (iff_of_true rfl trivial)

theorem checkAlternatives_reports_all {alternatives : Value F}
    (inside : ExactInside python check schema) (found : keyword? schema "anyOf" = some alternatives)
    (distinct : schema.DistinctKeys) :
    Reports (checkAlternatives check alternatives path)
      (∃ options, alternatives = .seq options ∧ options ≠ [] ∧
        ∀ option ∈ options, Supported python option) := by
  unfold checkAlternatives
  split
  · next first others =>
      generalize isOptions : first :: others = options at *
      have each : ∀ node ∈ options.zipIdx.map fun entry =>
            (entry.1, path ++ text ".anyOf[" ++ spell (decimal entry.2) ++ text "]"),
          Reports (check node.1 node.2) (Supported python node.1) := by
        rw [List.forall_mem_map]
        intro entry member
        have isOption := List.fst_mem_of_mem_zipIdx member
        exact inside _ _ ((depth_of_mem isOption).trans (depth_of_keyword found))
          (distinct_of_mem isOption (distinct_of_keyword found distinct))
      refine (checkAll_reports each).congr ?_
      rw [List.map_map]
      have firsts : options.zipIdx.map Prod.fst = options := List.zipIdx_map_fst _ _
      have same : options.zipIdx.map (Prod.fst ∘ fun entry : Value F × Nat =>
          (entry.1, path ++ text ".anyOf[" ++ spell (decimal entry.2) ++ text "]")) =
            options := firsts
      rw [same]
      constructor
      · intro all
        exact ⟨options, rfl, by simp [← isOptions], all⟩
      · rintro ⟨_, same, _, all⟩
        cases same
        exact all
  · next notList =>
      refine ⟨_, rfl, iff_of_false (List.cons_ne_nil _ _) ?_⟩
      rintro ⟨options, rfl, notEmpty, _⟩
      cases options with
      | nil => exact notEmpty rfl
      | cons first others => exact notList first others rfl

/-! ## One node -/

/-- A node that is well formed, the schemas in it supported. -/
def Shaped (python : PythonValues F) (schema : Value F) : Prop :=
  ∃ form, WellFormed python schema form ∧ ∀ child ∈ form.children, Supported python child

def Annotated (schema : Value F) : Prop :=
  ∀ annotation ∈ ["title", "description"], ∀ given,
    keyword? schema annotation = some given → ∃ letters, given = .str letters

theorem form_iff_of_alternatives {alternatives : Value F} {form : Form F}
    (found : keyword? schema "anyOf" = some alternatives) :
    form? schema = some form ↔ ∃ options, alternatives = .seq options ∧
      isNull (get schema "type") = true ∧ form = .anyOf options := by
  unfold form?
  rw [found]
  cases alternatives with
  | seq options =>
      by_cases noType : isNull (get schema "type") = true
      · simp [noType, eq_comm]
      · simp [noType]
  | _ => simp

theorem shaped_of_alternatives {entries : List (Text × Value F)} {alternatives : Value F}
    (found : keyword? (.map entries) "anyOf" = some alternatives) :
    Shaped python (.map entries) ↔ Annotated (.map entries) ∧
      isNull (get (.map entries) "type") = true ∧
      (∃ options, alternatives = .seq options ∧ options ≠ [] ∧
        ∀ option ∈ options, Supported python option) ∧
      ∀ key ∈ entries.map Prod.fst, key ∈ everyNode.map text := by
  have onlyCommon : ∀ options : List (Value F), (Form.anyOf options).keywords = everyNode :=
    fun _ => List.append_nil _
  constructor
  · rintro ⟨form, wellFormed, children⟩
    obtain ⟨options, isOptions, noType, rfl⟩ :=
      (form_iff_of_alternatives found).mp wellFormed.reads
    refine ⟨wellFormed.annotations, noType, ⟨options, isOptions, wellFormed.parts, children⟩, ?_⟩
    have keywords := wellFormed.keywords _ rfl
    rwa [onlyCommon] at keywords
  · rintro ⟨annotated, noType, ⟨options, isOptions, notEmpty, children⟩, keywords⟩
    have reads := (form_iff_of_alternatives found).mpr ⟨options, isOptions, noType, rfl⟩
    refine ⟨.anyOf options, ⟨reads, annotated, ?_, notEmpty⟩, children⟩
    intro keys areKeys
    cases areKeys
    rwa [onlyCommon]

theorem shaped_of_kind {entries : List (Text × Value F)} {kind : Kind}
    (absent : keyword? (.map entries) "anyOf" = none)
    (named : kindNamed (get (.map entries) "type") = some kind) :
    Shaped python (.map entries) ↔ Annotated (.map entries) ∧
      (∀ key ∈ entries.map Prod.fst, key ∈ (everyNode ++ kind.keywords).map text) ∧
        KindFormed python (.map entries) (some kind) := by
  constructor
  · rintro ⟨form, wellFormed, children⟩
    have isKind := kind_of_form wellFormed.reads
    rw [named] at isKind
    have keywords := wellFormed.keywords _ rfl
    rw [Form.keywords, ← isKind] at keywords
    refine ⟨wellFormed.annotations, keywords, ?_⟩
    have parts := wellFormed.parts
    cases form with
    | anyOf options => cases isKind
    | object properties required =>
        cases isKind
        obtain ⟨isProperties, isRequired⟩ := object_of_form wellFormed.reads
        exact ⟨properties, required, isProperties, isRequired, children, parts⟩
    | array child =>
        cases isKind
        exact ⟨child, items_of_form wellFormed.reads, children child List.mem_cons_self, parts⟩
    | _ =>
        cases isKind
        exact parts
  · rintro ⟨annotated, keywords, formed⟩
    have build : ∀ form : Form F, form? (.map entries) = some form → form.kind = some kind →
        PartsFormed python (.map entries) form → (∀ child ∈ form.children, Supported python child) →
          Shaped python (.map entries) := by
      intro form reads isKind parts children
      refine ⟨form, ⟨reads, annotated, ?_, parts⟩, children⟩
      intro keys areKeys
      cases areKeys
      rw [Form.keywords, isKind]
      exact keywords
    cases kind with
    | object =>
        obtain ⟨properties, required, isProperties, isRequired, children, parts⟩ := formed
        refine build (.object properties required) ?_ rfl parts children
        unfold form?
        rw [absent, named]
        simp [isProperties, isRequired]
    | array =>
        obtain ⟨child, isItems, supported, parts⟩ := formed
        refine build (.array child) ?_ rfl parts (List.forall_mem_singleton.mpr supported)
        unfold form?
        rw [absent, named]
        simp [isItems]
    | string =>
        refine build .string ?_ rfl formed (List.forall_mem_nil _)
        unfold form?
        rw [absent, named]
    | integer =>
        refine build .integer ?_ rfl formed (List.forall_mem_nil _)
        unfold form?
        rw [absent, named]
    | number =>
        refine build .number ?_ rfl formed (List.forall_mem_nil _)
        unfold form?
        rw [absent, named]
    | boolean =>
        refine build .boolean ?_ rfl trivial (List.forall_mem_nil _)
        unfold form?
        rw [absent, named]
    | null =>
        refine build .null ?_ rfl trivial (List.forall_mem_nil _)
        unfold form?
        rw [absent, named]

theorem not_shaped {entries : List (Text × Value F)}
    (absent : keyword? (.map entries) "anyOf" = none)
    (unnamed : kindNamed (get (.map entries) "type") = none) : ¬ Shaped python (.map entries) := by
  rintro ⟨form, wellFormed, _⟩
  have reads := wellFormed.reads
  unfold form? at reads
  rw [absent, unnamed] at reads
  cases reads

theorem checkShape_reports (inside : ExactInside python check schema)
    (distinct : schema.DistinctKeys) :
    Reports (checkShape python check schema path) (Shaped python schema) := by
  unfold checkShape
  cases schema with
  | map entries =>
      dsimp only
      cases found : keyword? (.map entries) "anyOf" with
      | some alternatives =>
          dsimp only
          rw [shaped_of_alternatives found]
          refine (checkAlternatives_reports_all inside found distinct).before fun parts areParts =>
            ?_
          refine (checkKind_reports inside distinct).before fun byKind isKind => reports_ok ?_
          simp only [List.append_eq_nil_iff, checkAnnotations_iff, unsupportedKeywords_iff,
            areParts, isKind]
          cases noType : isNull (get (.map entries) "type") with
          | true =>
              have unnamed : kindNamed (get (.map entries) "type") = none := by
                unfold isNull at noType
                split at noType
                · next isNone => rw [isNone]; rfl
                · cases noType
              simp [unnamed, KindFormed, Annotated, and_assoc]
          | false => simp
      | none =>
          dsimp only
          have refused : ∀ reasons : Reasons, kindNamed (get (.map entries) "type") = none →
              reasons ≠ [] → Reports (.ok reasons : Except PythonError Reasons)
                (Shaped python (.map entries)) :=
            fun reasons unnamed some_of =>
              reports_ok (iff_of_false some_of (not_shaped found unnamed))
          cases given : get (.map entries) "type" with
          | str word =>
              dsimp only
              cases isKind : kindOf? word with
              | none => exact refused _ (by rw [given]; exact isKind) (by simp)
              | some kind =>
                  rw [shaped_of_kind found (by rw [given]; exact isKind)]
                  refine (checkKind_reports inside distinct).before fun byKind isFormed =>
                    reports_ok ?_
                  rw [List.append_eq_nil_iff, List.append_eq_nil_iff, checkAnnotations_iff,
                    unsupportedKeywords_iff, isFormed, and_assoc, Annotated]
          | _ => exact refused _ (by rw [given]; rfl) (by simp)
  | _ =>
      refine reports_ok (iff_of_false (List.cons_ne_nil _ _) ?_)
      rintro ⟨form, wellFormed, _⟩
      obtain ⟨entries, isMap⟩ := mapping_of_form wellFormed.reads
      cases isMap

end Walk

/-! ## Literals -/

theorem keyword_withoutLiterals {key : String} (other : key ≠ "enum") (other' : key ≠ "const") :
    keyword? (withoutLiterals schema) key = keyword? schema key := by
  cases schema with
  | map entries =>
      have kept : text key ≠ text "enum" ∧ text key ≠ text "const" :=
        ⟨fun same => other (text_injective same), fun same => other' (text_injective same)⟩
      rw [withoutLiterals, keyword?, keyword?, Value.field?, Value.field?]
      induction entries with
      | nil => rfl
      | cons entry entries ih =>
          obtain ⟨here, given⟩ := entry
          rw [List.filter_cons]
          split
          · rw [List.lookup_cons, List.lookup_cons, ih]
          · next isLiteral =>
              have differs : text key ≠ here := by
                rintro rfl
                exact isLiteral (decide_eq_true kept)
              rw [List.lookup_cons, beq_eq_false_iff_ne.mpr differs, ih]
  | _ => rfl

theorem no_literal_keyword {key : String} (literal : key = "enum" ∨ key = "const") :
    keyword? (withoutLiterals schema) key = none := by
  cases schema with
  | map entries =>
      rw [withoutLiterals, keyword?, Value.field?, ← Option.not_isSome_iff_eq_none,
        lookup_isSome_iff]
      rintro member
      obtain ⟨entry, isEntry, isKey⟩ := List.mem_map.mp member
      have kept := of_decide_eq_true (List.mem_filter.mp isEntry).2
      rcases literal with rfl | rfl
      · exact kept.1 isKey
      · exact kept.2 isKey
  | _ => rfl

theorem get_withoutLiterals {key : String} (other : key ≠ "enum") (other' : key ≠ "const") :
    get (withoutLiterals schema) key = get schema key := by
  rw [Agent.get, Agent.get, keyword_withoutLiterals other other']

theorem form_withoutLiterals : form? (withoutLiterals schema) = form? schema := by
  have same : ∀ key : String, key ≠ "enum" → key ≠ "const" →
      keyword? (withoutLiterals schema) key = keyword? schema key :=
        fun _ => keyword_withoutLiterals
  unfold form? properties? required?
  rw [same "anyOf" (by decide) (by decide), same "properties" (by decide) (by decide),
    same "required" (by decide) (by decide), same "items" (by decide) (by decide),
    get_withoutLiterals (by decide) (by decide)]

theorem sizesFormed_withoutLiterals {low high : String} (isLow : low ≠ "enum" ∧ low ≠ "const")
    (isHigh : high ≠ "enum" ∧ high ≠ "const") (formed : SizesFormed schema low high) :
    SizesFormed (withoutLiterals schema) low high := by
  constructor
  · intro key member given isGiven
    have other : key ≠ "enum" ∧ key ≠ "const" := by
      rcases List.mem_cons.mp member with rfl | isSecond
      · exact isLow
      · rwa [List.mem_singleton.mp isSecond]
    rw [keyword_withoutLiterals other.1 other.2] at isGiven
    exact formed.sizes key member given isGiven
  · intro least most
    rw [get_withoutLiterals isLow.1 isLow.2, get_withoutLiterals isHigh.1 isHigh.2]
    exact formed.ordered least most

theorem bound_not_literal {bound : String} (member : bound ∈ bounds) :
    bound ≠ "enum" ∧ bound ≠ "const" := by
  revert bound
  decide

theorem partsFormed_withoutLiterals {form : Form F} (parts : PartsFormed python schema form) :
    PartsFormed python (withoutLiterals schema) form := by
  have numeric : (∀ bound ∈ bounds, ∀ given, keyword? schema bound = some given →
        ∃ number, number? python given = some number) →
      ∀ bound ∈ bounds, ∀ given, keyword? (withoutLiterals schema) bound = some given →
        ∃ number, number? python given = some number := by
    intro all bound member given isGiven
    obtain ⟨other, other'⟩ := bound_not_literal member
    rw [keyword_withoutLiterals other other'] at isGiven
    exact all bound member given isGiven
  cases form with
  | object properties required =>
      obtain ⟨nodup, declared, closed⟩ := parts
      refine ⟨nodup, declared, fun given isGiven => closed given ?_⟩
      rwa [keyword_withoutLiterals (by decide) (by decide)] at isGiven
  | array | string => exact sizesFormed_withoutLiterals (by decide) (by decide) parts
  | integer => exact numeric parts
  | number => exact numeric parts
  | _ => exact parts

theorem supported_withoutLiterals (shaped : Shaped python schema) :
    Supported python (withoutLiterals schema) := by
  obtain ⟨form, wellFormed, children⟩ := shaped
  have others : ∀ annotation ∈ ["title", "description"],
      annotation ≠ "enum" ∧ annotation ≠ "const" := by decide
  refine .node ⟨?_, ?_, ?_, partsFormed_withoutLiterals wellFormed.parts⟩ children ⟨?_, ?_⟩
  · rw [form_withoutLiterals, wellFormed.reads]
  · intro annotation member given isGiven
    obtain ⟨other, other'⟩ := others annotation member
    rw [keyword_withoutLiterals other other'] at isGiven
    exact wellFormed.annotations annotation member given isGiven
  · intro keys areKeys key member
    obtain ⟨entries, rfl⟩ := mapping_of_form wellFormed.reads
    cases areKeys
    have kept := List.filter_sublist.map Prod.fst |>.subset member
    exact wellFormed.keywords _ rfl key kept
  · intro given isGiven
    rw [no_literal_keyword (.inl rfl)] at isGiven
    cases isGiven
  · intro literal member
    rw [literals, no_literal_keyword (.inl rfl), no_literal_keyword (.inr rfl)] at member
    cases member

theorem distinct_withoutLiterals (distinct : schema.DistinctKeys) :
    (withoutLiterals schema).DistinctKeys := by
  cases schema with
  | map entries =>
      rw [withoutLiterals]
      rw [Value.DistinctKeys, distinctEntries_iff] at distinct ⊢
      refine ⟨distinct.1.sublist (List.filter_sublist.map Prod.fst), fun entry member => ?_⟩
      exact distinct.2 entry (List.mem_of_mem_filter member)
  | _ => exact distinct

theorem distinct_of_literal {literal : Value F} (member : literal ∈ literals schema)
    (distinct : schema.DistinctKeys) : literal.DistinctKeys := by
  rcases List.mem_append.mp member with inEnum | isConst
  · cases found : keyword? schema "enum" with
    | none =>
        rw [found] at inEnum
        cases inEnum
    | some given =>
        rw [found] at inEnum
        cases given with
        | seq options => exact distinct_of_mem inEnum (distinct_of_keyword found distinct)
        | _ => cases inEnum
  · exact distinct_of_keyword (Option.mem_toList.mp isConst) distinct

theorem checkLiterals_reports (shaped : Shaped python schema) (distinct : schema.DistinctKeys) :
    Reports (checkLiterals python schema path) (LiteralsFormed python schema) := by
  have each : ∀ literal ∈ literals schema, Reports (checkLiteral python schema path literal)
      (Conforms python (withoutLiterals schema) literal) := by
    intro literal member
    obtain ⟨violations, ran, iff⟩ := schemaViolations_reports (supported_withoutLiterals shaped)
      (distinct_withoutLiterals distinct) (distinct_of_literal member distinct)
    unfold checkLiteral
    rw [ran]
    exact reports_unless.congr (by rw [not_not, iff])
  have all : Reports (checkEachLiteral python schema path)
      (∀ literal ∈ literals schema, Conforms python (withoutLiterals schema) literal) :=
    reports_flatten each
  have listed : (∀ given, keyword? schema "enum" = some given →
        ∃ first others, given = .seq (first :: others)) →
      Reports (checkEachLiteral python schema path) (LiteralsFormed python schema) := by
    intro enum
    exact all.congr ⟨fun literals => ⟨enum, literals⟩, LiteralsFormed.literals⟩
  unfold checkLiterals
  split
  · next found => exact listed (by simp [found])
  · next found => exact listed (by simp [found])
  · next given notListed found =>
      refine reports_ok (iff_of_false (List.cons_ne_nil _ _) fun formed => ?_)
      obtain ⟨first, others, rfl⟩ := formed.enum given found
      exact notListed first others rfl

/-! ## The walk -/

theorem supported_iff :
    Supported python schema ↔ Shaped python schema ∧ LiteralsFormed python schema := by
  constructor
  · intro supported
    cases supported with
    | node wellFormed children formed => exact ⟨⟨_, wellFormed, children⟩, formed⟩
  · rintro ⟨⟨form, wellFormed, children⟩, formed⟩
    exact .node wellFormed children formed

theorem depth_pos (schema : Value F) : 0 < depth schema := by
  cases schema <;> simp [depth]

/-- `_check_node` is exact, in whatever fuel the schema needs. -/
theorem checkNode_reports : ∀ (fuel : Nat) (schema : Value F) (path : Text), depth schema ≤ fuel →
    schema.DistinctKeys →
      Reports (checkNode python fuel schema path) (Supported python schema) := by
  intro fuel
  induction fuel with
  | zero =>
      intro schema path enough
      exact absurd enough (Nat.not_le_of_lt (depth_pos schema))
  | succ fuel ih =>
      intro schema path enough distinct
      have inside : ExactInside python (checkNode python fuel) schema :=
        fun child path shallow isDistinct =>
          ih child path (Nat.le_of_lt_succ (shallow.trans_le enough)) isDistinct
      obtain ⟨found, ran, iff⟩ :
          Reports (checkShape python (checkNode python fuel) schema path) (Shaped python schema) :=
        checkShape_reports inside distinct
      rw [checkNode, ran, supported_iff]
      cases found with
      | nil =>
          have shaped := iff.mp rfl
          refine (checkLiterals_reports shaped distinct).congr ?_
          exact (and_iff_right shaped).symm
      | cons reason reasons =>
          refine reports_ok (iff_of_false (List.cons_ne_nil _ _) fun both => ?_)
          cases iff.mpr both.1

end Xaytune.Agent

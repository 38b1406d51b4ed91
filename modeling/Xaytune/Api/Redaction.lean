import Mathlib.Data.List.Basic
import Mathlib.Logic.Basic

/-!
# Reducing actors in served documents

`document` serves a recorded value with every actor reduced to its type and id. A model is dumped
as a whole, and only those of its fields that hold an `Actor` are walked; elsewhere an actor that
was serialized before is known by its shape. The metadata of an actor stays on the server exactly
if no serialized actor lies in a field that holds no `Actor`.
-/

namespace Xaytune.Api

variable {S : Type}

/-- A recorded value; `S` are scalars. A leaf has the text a model dumps it as, and its own. -/
inductive Value (S : Type) where
  | leaf (dumped plain : S)
  | actor (type id : S) (metadata : List (String × Value S))
  | model (fields : List (String × Value S))
  | mapping (items : List (String × Value S))
  | sequence (items : List (Value S))

/-- A served JSON value. -/
inductive Doc (S : Type) where
  | scalar (value : S)
  | object (fields : List (String × Doc S))
  | array (items : List (Doc S))

section model

mutual

/-- `model_dump(mode="json", by_alias=True)`. -/
def dump : Value S → Doc S
  | .leaf dumped _ => .scalar dumped
  | .actor type id metadata =>
      .object [("type", .scalar type), ("id", .scalar id),
        ("metadata", .object (dumpFields metadata))]
  | .model fields => .object (dumpFields fields)
  | .mapping items => .object (dumpFields items)
  | .sequence items => .array (dumpItems items)

def dumpFields : List (String × Value S) → List (String × Doc S)
  | [] => []
  | (key, value) :: fields => (key, dump value) :: dumpFields fields

def dumpItems : List (Value S) → List (Doc S)
  | [] => []
  | value :: items => dump value :: dumpItems items

end

mutual

/-- `_holds_actor`. -/
def holdsActor : Value S → Bool
  | .leaf .. => false
  | .actor .. => true
  | .model fields => fieldsHoldActor fields
  | .mapping items => fieldsHoldActor items
  | .sequence items => itemsHoldActor items

def fieldsHoldActor : List (String × Value S) → Bool
  | [] => false
  | (_, value) :: fields => holdsActor value || fieldsHoldActor fields

def itemsHoldActor : List (Value S) → Bool
  | [] => false
  | value :: items => holdsActor value || itemsHoldActor items

end

variable (isActorType : S → Bool)

/-- Whether a value is one of the actor types. -/
def Value.namesType : Value S → Bool
  | .leaf _ plain => isActorType plain
  | _ => false

/-- `_is_recorded_actor`: exactly an actor's keys, with an actor's type. -/
def isRecordedActor (items : List (String × Value S)) : Bool :=
  (items.map Prod.fst).isPerm ["type", "id", "metadata"] &&
    (items.lookup "type").any (Value.namesType isActorType)

/-- What is served of an actor that was serialized before. -/
def reduced (items : List (String × Value S)) : Doc S :=
  .object (["type", "id"].filterMap fun key =>
    (items.lookup key).map fun value => (key, dump value))

mutual

def document : Value S → Doc S
  | .leaf _ plain => .scalar plain
  | .actor type id _ => .object [("type", .scalar type), ("id", .scalar id)]
  | .model fields => .object (documentFields true fields)
  | .mapping items =>
      if isRecordedActor isActorType items then reduced items
      else .object (documentFields false items)
  | .sequence items => .array (documentItems items)

/-- The fields of a model, dumped but for those that hold an actor, or the items of a mapping. -/
def documentFields (dumped : Bool) : List (String × Value S) → List (String × Doc S)
  | [] => []
  | (key, value) :: fields =>
      (key, if dumped && !holdsActor value then dump value else document value) ::
        documentFields dumped fields

def documentItems : List (Value S) → List (Doc S)
  | [] => []
  | value :: items => document value :: documentItems items

end

/-! ## Two values that differ in the metadata of actors -/

mutual

/-- The second value is the first, but for the metadata of actors. -/
def Similar : Value S → Value S → Prop
  | .leaf dumped plain, other => other = .leaf dumped plain
  | .actor type id _, other => ∃ metadata, other = .actor type id metadata
  | .model fields, other =>
      ∃ fields', other = .model fields' ∧ SimilarFields false fields fields'
  | .mapping items, other =>
      ∃ items', other = .mapping items' ∧
        SimilarFields (isRecordedActor isActorType items) items items'
  | .sequence items, other => ∃ items', other = .sequence items' ∧ SimilarItems items items'

/-- The metadata of an actor that was serialized before is any other that holds no `Actor`. -/
def SimilarFields (recorded : Bool) : List (String × Value S) → List (String × Value S) → Prop
  | [], others => others = []
  | (key, value) :: fields, others =>
      ∃ value' fields', others = (key, value') :: fields' ∧ SimilarFields recorded fields fields' ∧
        (Similar value value' ∨ recorded = true ∧ key = "metadata" ∧
          holdsActor value = false ∧ holdsActor value' = false)

def SimilarItems : List (Value S) → List (Value S) → Prop
  | [], others => others = []
  | value :: items, others =>
      ∃ value' items', others = value' :: items' ∧ Similar value value' ∧ SimilarItems items items'

end

/-! ## Where metadata is served -/

mutual

/-- No actor in a value, serialized or not. -/
def clean : Value S → Bool
  | .leaf .. => true
  | .actor .. => false
  | .model fields => cleanFields fields
  | .mapping items => !isRecordedActor isActorType items && cleanFields items
  | .sequence items => cleanItems items

def cleanFields : List (String × Value S) → Bool
  | [] => true
  | (_, value) :: fields => clean value && cleanFields fields

def cleanItems : List (Value S) → Bool
  | [] => true
  | value :: items => clean value && cleanItems items

end

mutual

/-- No serialized actor in a field that holds no `Actor`, nor below the id of another. -/
def hidden : Value S → Bool
  | .leaf .. => true
  | .actor .. => true
  | .model fields => hiddenFields true fields
  | .mapping items =>
      if isRecordedActor isActorType items then (items.lookup "id").all (clean isActorType)
      else hiddenFields false items
  | .sequence items => hiddenItems items

def hiddenFields (dumped : Bool) : List (String × Value S) → Bool
  | [] => true
  | (_, value) :: fields =>
      (if dumped && !holdsActor value then clean isActorType value else hidden value) &&
        hiddenFields dumped fields

def hiddenItems : List (Value S) → Bool
  | [] => true
  | value :: items => hidden value && hiddenItems items

end

end model

section similar

variable {isActorType : S → Bool}

mutual

theorem similar_refl : (value : Value S) → Similar isActorType value value
  | .leaf .. => rfl
  | .actor _ _ metadata => ⟨metadata, rfl⟩
  | .model fields => ⟨fields, rfl, similarFields_refl false fields⟩
  | .mapping items => ⟨items, rfl, similarFields_refl _ items⟩
  | .sequence items => ⟨items, rfl, similarItems_refl items⟩

theorem similarFields_refl (recorded : Bool) :
    (fields : List (String × Value S)) → SimilarFields isActorType recorded fields fields
  | [] => rfl
  | (_, value) :: fields =>
      ⟨value, fields, rfl, similarFields_refl recorded fields, .inl (similar_refl value)⟩

theorem similarItems_refl : (items : List (Value S)) → SimilarItems isActorType items items
  | [] => rfl
  | value :: items => ⟨value, items, rfl, similar_refl value, similarItems_refl items⟩

end

mutual

theorem holdsActor_of_similar {other : Value S} :
    (value : Value S) → Similar isActorType value other → holdsActor other = holdsActor value
  | .leaf .., similar => by rw [similar]
  | .actor .., similar => by
      obtain ⟨metadata, rfl⟩ := similar
      rfl
  | .model fields, similar => by
      obtain ⟨fields', rfl, similar⟩ := similar
      exact fieldsHoldActor_of_similar fields similar
  | .mapping items, similar => by
      obtain ⟨items', rfl, similar⟩ := similar
      exact fieldsHoldActor_of_similar items similar
  | .sequence items, similar => by
      obtain ⟨items', rfl, similar⟩ := similar
      exact itemsHoldActor_of_similar items similar

theorem fieldsHoldActor_of_similar {recorded : Bool} {others : List (String × Value S)} :
    (fields : List (String × Value S)) → SimilarFields isActorType recorded fields others →
      fieldsHoldActor others = fieldsHoldActor fields
  | [], similar => by rw [similar]
  | (key, value) :: fields, similar => by
      obtain ⟨value', fields', rfl, similar, here⟩ := similar
      rw [fieldsHoldActor, fieldsHoldActor, fieldsHoldActor_of_similar fields similar]
      rcases here with same | ⟨-, -, none, none'⟩
      · rw [holdsActor_of_similar value same]
      · rw [none, none']

theorem itemsHoldActor_of_similar {others : List (Value S)} :
    (items : List (Value S)) → SimilarItems isActorType items others →
      itemsHoldActor others = itemsHoldActor items
  | [], similar => by rw [similar]
  | value :: items, similar => by
      obtain ⟨value', items', rfl, here, similar⟩ := similar
      rw [itemsHoldActor, itemsHoldActor, holdsActor_of_similar value here,
        itemsHoldActor_of_similar items similar]

end

/-- A key other than that of metadata finds similar values, or none in either. -/
theorem lookup_of_similar {recorded : Bool} {fields others : List (String × Value S)}
    (similar : SimilarFields isActorType recorded fields others) (key : String)
    (apart : recorded = true → key ≠ "metadata") :
    (fields.lookup key = none ∧ others.lookup key = none) ∨
      ∃ value value', fields.lookup key = some value ∧ others.lookup key = some value' ∧
        Similar isActorType value value' := by
  induction fields generalizing others with
  | nil =>
      obtain rfl : others = [] := similar
      exact .inl ⟨rfl, rfl⟩
  | cons field fields ih =>
      obtain ⟨name, value⟩ := field
      obtain ⟨value', fields', rfl, rest, here⟩ := similar
      rw [List.lookup_cons, List.lookup_cons]
      by_cases same : key = name
      · subst same
        simp only [beq_self_eq_true]
        refine .inr ⟨value, value', rfl, rfl, ?_⟩
        exact here.resolve_right fun exempt => apart exempt.1 exempt.2.1
      · simp only [beq_eq_false_iff_ne.mpr same]
        exact ih rest

theorem keys_of_similar {recorded : Bool} {fields others : List (String × Value S)}
    (similar : SimilarFields isActorType recorded fields others) :
    others.map Prod.fst = fields.map Prod.fst := by
  induction fields generalizing others with
  | nil => rw [show others = [] from similar]
  | cons field fields ih =>
      obtain ⟨value', fields', rfl, rest, -⟩ := similar
      rw [List.map_cons, List.map_cons, ih rest]

theorem namesType_of_similar {value other : Value S} (similar : Similar isActorType value other) :
    other.namesType isActorType = value.namesType isActorType := by
  cases value with
  | leaf dumped plain => rw [show other = .leaf dumped plain from similar]
  | actor type id metadata =>
      obtain ⟨metadata', rfl⟩ := similar
      rfl
  | model fields =>
      obtain ⟨fields', rfl, -⟩ := similar
      rfl
  | mapping items =>
      obtain ⟨items', rfl, -⟩ := similar
      rfl
  | sequence items =>
      obtain ⟨items', rfl, -⟩ := similar
      rfl

theorem isRecordedActor_of_similar {recorded : Bool} {items others : List (String × Value S)}
    (similar : SimilarFields isActorType recorded items others) :
    isRecordedActor isActorType others = isRecordedActor isActorType items := by
  rw [isRecordedActor, isRecordedActor, keys_of_similar similar]
  rcases lookup_of_similar similar "type" (fun _ => by decide) with
    ⟨none, none'⟩ | ⟨value, value', found, found', here⟩
  · rw [none, none']
  · rw [found, found', Option.any_some, Option.any_some, namesType_of_similar here]

/-! ## Nothing is served where nothing is exposed -/

mutual

theorem eq_of_clean {other : Value S} : (value : Value S) → clean isActorType value = true →
    Similar isActorType value other → other = value
  | .leaf .., _, similar => similar
  | .actor .., isClean, _ => by
      rw [clean] at isClean
      cases isClean
  | .model fields, isClean, similar => by
      obtain ⟨fields', rfl, similar⟩ := similar
      rw [clean] at isClean
      rw [fields_eq_of_clean fields isClean similar]
  | .mapping items, isClean, similar => by
      obtain ⟨items', rfl, similar⟩ := similar
      rw [clean, Bool.and_eq_true, Bool.not_eq_true'] at isClean
      rw [isClean.1] at similar
      rw [fields_eq_of_clean items isClean.2 similar]
  | .sequence items, isClean, similar => by
      obtain ⟨items', rfl, similar⟩ := similar
      rw [clean] at isClean
      rw [items_eq_of_clean items isClean similar]

theorem fields_eq_of_clean {others : List (String × Value S)} :
    (fields : List (String × Value S)) → cleanFields isActorType fields = true →
      SimilarFields isActorType false fields others → others = fields
  | [], _, similar => similar
  | (key, value) :: fields, isClean, similar => by
      obtain ⟨value', fields', rfl, similar, here⟩ := similar
      rw [cleanFields, Bool.and_eq_true] at isClean
      have same := here.resolve_right fun exempt => Bool.false_ne_true exempt.1
      rw [eq_of_clean value isClean.1 same, fields_eq_of_clean fields isClean.2 similar]

theorem items_eq_of_clean {others : List (Value S)} :
    (items : List (Value S)) → cleanItems isActorType items = true →
      SimilarItems isActorType items others → others = items
  | [], _, similar => similar
  | value :: items, isClean, similar => by
      obtain ⟨value', items', rfl, here, similar⟩ := similar
      rw [cleanItems, Bool.and_eq_true] at isClean
      rw [eq_of_clean value isClean.1 here, items_eq_of_clean items isClean.2 similar]

end

/-- A type is a leaf, so it is the same in both. -/
theorem eq_of_namesType {value other : Value S} (names : value.namesType isActorType = true)
    (similar : Similar isActorType value other) : other = value := by
  cases value with
  | leaf dumped plain => exact similar
  | _ => cases names

theorem reduced_of_similar {items others : List (String × Value S)}
    (recorded : isRecordedActor isActorType items = true)
    (id : (items.lookup "id").all (clean isActorType) = true)
    (similar : SimilarFields isActorType true items others) : reduced others = reduced items := by
  rw [isRecordedActor, Bool.and_eq_true] at recorded
  have type : others.lookup "type" = items.lookup "type" := by
    rcases lookup_of_similar similar "type" (fun _ => by decide) with
      ⟨none, none'⟩ | ⟨value, value', found, found', here⟩
    · rw [none, none']
    · have names := recorded.2
      rw [found, Option.any_some] at names
      rw [found, found', eq_of_namesType names here]
  have same : others.lookup "id" = items.lookup "id" := by
    rcases lookup_of_similar similar "id" (fun _ => by decide) with
      ⟨none, none'⟩ | ⟨value, value', found, found', here⟩
    · rw [none, none']
    · rw [found, Option.all_some] at id
      rw [found, found', eq_of_clean value id here]
  simp only [reduced, List.filterMap_cons, List.filterMap_nil, type, same]

mutual

theorem document_of_similar {other : Value S} : (value : Value S) →
    hidden isActorType value = true → Similar isActorType value other →
      document isActorType other = document isActorType value
  | .leaf .., _, similar => by rw [similar]
  | .actor .., _, similar => by
      obtain ⟨metadata, rfl⟩ := similar
      rw [document, document]
  | .model fields, isHidden, similar => by
      obtain ⟨fields', rfl, similar⟩ := similar
      rw [hidden] at isHidden
      rw [document, document, documentFields_of_similar true fields isHidden similar]
  | .mapping items, isHidden, similar => by
      obtain ⟨items', rfl, similar⟩ := similar
      rw [hidden] at isHidden
      rw [document, document, isRecordedActor_of_similar similar]
      by_cases recorded : isRecordedActor isActorType items = true
      · rw [if_pos recorded] at isHidden
        rw [recorded] at similar
        rw [if_pos recorded, if_pos recorded, reduced_of_similar recorded isHidden similar]
      · rw [if_neg recorded] at isHidden
        rw [Bool.not_eq_true] at recorded
        rw [recorded] at similar
        rw [if_neg (by simp [recorded]), if_neg (by simp [recorded]),
          documentFields_of_similar false items isHidden similar]
  | .sequence items, isHidden, similar => by
      obtain ⟨items', rfl, similar⟩ := similar
      rw [hidden] at isHidden
      rw [document, document, documentItems_of_similar items isHidden similar]

theorem documentFields_of_similar (dumped : Bool) {others : List (String × Value S)} :
    (fields : List (String × Value S)) → hiddenFields isActorType dumped fields = true →
      SimilarFields isActorType false fields others →
        documentFields isActorType dumped others = documentFields isActorType dumped fields
  | [], _, similar => by rw [similar]
  | (key, value) :: fields, isHidden, similar => by
      obtain ⟨value', fields', rfl, similar, here⟩ := similar
      have same := here.resolve_right fun exempt => Bool.false_ne_true exempt.1
      rw [hiddenFields, Bool.and_eq_true] at isHidden
      rw [documentFields, documentFields, holdsActor_of_similar value same,
        documentFields_of_similar dumped fields isHidden.2 similar]
      have isHidden := isHidden.1
      split at isHidden
      · rw [eq_of_clean value isHidden same]
      · rw [document_of_similar value isHidden same]
        next walked => rw [if_neg walked, if_neg walked]

theorem documentItems_of_similar {others : List (Value S)} :
    (items : List (Value S)) → hiddenItems isActorType items = true →
      SimilarItems isActorType items others →
        documentItems isActorType others = documentItems isActorType items
  | [], _, similar => by rw [similar]
  | value :: items, isHidden, similar => by
      obtain ⟨value', items', rfl, here, similar⟩ := similar
      rw [hiddenItems, Bool.and_eq_true] at isHidden
      rw [documentItems, documentItems, document_of_similar value isHidden.1 here,
        documentItems_of_similar items isHidden.2 similar]

end

/-! ## What is exposed can be read off -/

mutual

theorem holdsActor_of_clean : (value : Value S) → clean isActorType value = true →
    holdsActor value = false
  | .leaf .., _ => rfl
  | .actor .., isClean => by
      rw [clean] at isClean
      cases isClean
  | .model fields, isClean => by
      rw [clean] at isClean
      exact fieldsHoldActor_of_clean fields isClean
  | .mapping items, isClean => by
      rw [clean, Bool.and_eq_true] at isClean
      exact fieldsHoldActor_of_clean items isClean.2
  | .sequence items, isClean => by
      rw [clean] at isClean
      exact itemsHoldActor_of_clean items isClean

theorem fieldsHoldActor_of_clean : (fields : List (String × Value S)) →
    cleanFields isActorType fields = true → fieldsHoldActor fields = false
  | [], _ => rfl
  | (_, value) :: fields, isClean => by
      rw [cleanFields, Bool.and_eq_true] at isClean
      rw [fieldsHoldActor, holdsActor_of_clean value isClean.1,
        fieldsHoldActor_of_clean fields isClean.2, Bool.or_false]

theorem itemsHoldActor_of_clean : (items : List (Value S)) →
    cleanItems isActorType items = true → itemsHoldActor items = false
  | [], _ => rfl
  | value :: items, isClean => by
      rw [cleanItems, Bool.and_eq_true] at isClean
      rw [itemsHoldActor, holdsActor_of_clean value isClean.1,
        itemsHoldActor_of_clean items isClean.2, Bool.or_false]

end

/-- Some value without an `Actor` is dumped as another document than the one given. -/
theorem exists_unlike (doc : Doc S) :
    ∃ other : Value S, holdsActor other = false ∧ dump other ≠ doc := by
  by_cases same : dump (.mapping []) = doc
  · refine ⟨.sequence [], rfl, ?_⟩
    rw [← same, dump, dump]
    exact nofun
  · exact ⟨.mapping [], rfl, same⟩

theorem exists_unlike_fields (docs : List (String × Doc S)) :
    ∃ others : List (String × Value S), dumpFields others ≠ docs := by
  by_cases same : dumpFields [] = docs
  · refine ⟨[("", .sequence [])], ?_⟩
    rw [← same, dumpFields, dumpFields]
    exact nofun
  · exact ⟨[], same⟩

mutual

theorem dump_shows : (value : Value S) → clean isActorType value = false →
    ∃ other, Similar isActorType value other ∧ dump other ≠ dump value
  | .leaf .., exposed => by
      rw [clean] at exposed
      cases exposed
  | .actor type id metadata, _ => by
      obtain ⟨metadata', differs⟩ := exists_unlike_fields (dumpFields metadata)
      refine ⟨.actor type id metadata', ⟨metadata', rfl⟩, ?_⟩
      rw [dump, dump]
      simpa using differs
  | .model fields, exposed => by
      rw [clean] at exposed
      obtain ⟨fields', similar, differs⟩ := dumpFields_shows false fields (.inl exposed)
      refine ⟨.model fields', ⟨fields', rfl, similar⟩, ?_⟩
      rw [dump, dump]
      simpa using differs
  | .mapping items, exposed => by
      have shown : cleanFields isActorType items = false ∨
          isRecordedActor isActorType items = true ∧ "metadata" ∈ items.map Prod.fst := by
        rw [clean] at exposed
        cases recorded : isRecordedActor isActorType items with
        | false => exact .inl (by simpa [recorded] using exposed)
        | true =>
            rw [isRecordedActor, Bool.and_eq_true, List.isPerm_iff] at recorded
            exact .inr ⟨rfl, recorded.1.mem_iff.mpr (by simp)⟩
      obtain ⟨items', similar, differs⟩ := dumpFields_shows _ items shown
      refine ⟨.mapping items', ⟨items', rfl, similar⟩, ?_⟩
      rw [dump, dump]
      simpa using differs
  | .sequence items, exposed => by
      rw [clean] at exposed
      obtain ⟨items', similar, differs⟩ := dumpItems_shows items exposed
      refine ⟨.sequence items', ⟨items', rfl, similar⟩, ?_⟩
      rw [dump, dump]
      simpa using differs

theorem dumpFields_shows (recorded : Bool) : (fields : List (String × Value S)) →
    (cleanFields isActorType fields = false ∨
      recorded = true ∧ "metadata" ∈ fields.map Prod.fst) →
    ∃ others, SimilarFields isActorType recorded fields others ∧
      dumpFields others ≠ dumpFields fields
  | [], exposed => by simp [cleanFields] at exposed
  | (key, value) :: fields, exposed => by
      cases isClean : clean isActorType value with
      | false =>
          obtain ⟨other, similar, differs⟩ := dump_shows value isClean
          refine ⟨(key, other) :: fields,
            ⟨other, fields, rfl, similarFields_refl recorded fields, .inl similar⟩, ?_⟩
          rw [dumpFields, dumpFields]
          simpa using differs
      | true =>
          by_cases exempt : recorded = true ∧ key = "metadata"
          · obtain ⟨other, none, differs⟩ := exists_unlike (dump value)
            refine ⟨(key, other) :: fields,
              ⟨other, fields, rfl, similarFields_refl recorded fields,
                .inr ⟨exempt.1, exempt.2, holdsActor_of_clean value isClean, none⟩⟩, ?_⟩
            rw [dumpFields, dumpFields]
            simpa using differs
          · have later : cleanFields isActorType fields = false ∨
                recorded = true ∧ "metadata" ∈ fields.map Prod.fst := by
              refine exposed.imp ?_ ?_
              · intro exposed
                rwa [cleanFields, isClean, Bool.true_and] at exposed
              · rintro ⟨isRecorded, member⟩
                refine ⟨isRecorded, (List.mem_cons.mp member).resolve_left ?_⟩
                exact fun same => exempt ⟨isRecorded, same.symm⟩
            obtain ⟨fields', similar, differs⟩ := dumpFields_shows recorded fields later
            refine ⟨(key, value) :: fields',
              ⟨value, fields', rfl, similar, .inl (similar_refl value)⟩, ?_⟩
            rw [dumpFields, dumpFields]
            simpa using differs

theorem dumpItems_shows : (items : List (Value S)) → cleanItems isActorType items = false →
    ∃ others, SimilarItems isActorType items others ∧ dumpItems others ≠ dumpItems items
  | [], exposed => by
      rw [cleanItems] at exposed
      cases exposed
  | value :: items, exposed => by
      cases isClean : clean isActorType value with
      | false =>
          obtain ⟨other, similar, differs⟩ := dump_shows value isClean
          refine ⟨other :: items, ⟨other, items, rfl, similar, similarItems_refl items⟩, ?_⟩
          rw [dumpItems, dumpItems]
          simpa using differs
      | true =>
          rw [cleanItems, isClean, Bool.true_and] at exposed
          obtain ⟨items', similar, differs⟩ := dumpItems_shows items exposed
          refine ⟨value :: items', ⟨value, items', rfl, similar_refl value, similar⟩, ?_⟩
          rw [dumpItems, dumpItems]
          simpa using differs

end

/-- A field can be given any similar value, the others kept. -/
theorem exists_similar_lookup (recorded : Bool) {fields : List (String × Value S)} {key : String}
    {value other : Value S} (found : fields.lookup key = some value)
    (similar : Similar isActorType value other) :
    ∃ others, SimilarFields isActorType recorded fields others ∧ others.lookup key = some other ∧
      ∀ name, name ≠ key → others.lookup name = fields.lookup name := by
  induction fields with
  | nil => cases found
  | cons field fields ih =>
      obtain ⟨first, here⟩ := field
      rw [List.lookup_cons] at found
      by_cases same : key = first
      · subst same
        simp only [beq_self_eq_true, Option.some.injEq] at found
        subst found
        refine ⟨(key, other) :: fields,
          ⟨other, fields, rfl, similarFields_refl recorded fields, .inl similar⟩, ?_, ?_⟩
        · rw [List.lookup_cons_self]
        · intro name differs
          rw [List.lookup_cons, List.lookup_cons, beq_eq_false_iff_ne.mpr differs]
      · simp only [beq_eq_false_iff_ne.mpr same] at found
        obtain ⟨others, rest, there, kept⟩ := ih found
        refine ⟨(first, here) :: others,
          ⟨here, others, rfl, rest, .inl (similar_refl here)⟩, ?_, ?_⟩
        · rw [List.lookup_cons, beq_eq_false_iff_ne.mpr same]
          exact there
        · intro name differs
          rw [List.lookup_cons, List.lookup_cons, kept name differs]

theorem reduced_shows {items : List (String × Value S)}
    (exposed : (items.lookup "id").all (clean isActorType) = false) :
    ∃ others, SimilarFields isActorType true items others ∧ reduced others ≠ reduced items := by
  cases found : items.lookup "id" with
  | none =>
      rw [found] at exposed
      cases exposed
  | some value =>
      rw [found, Option.all_some] at exposed
      obtain ⟨other, similar, differs⟩ := dump_shows value exposed
      obtain ⟨others, rest, there, kept⟩ := exists_similar_lookup true found similar
      refine ⟨others, rest, ?_⟩
      have type := kept "type" (by decide)
      cases named : items.lookup "type" <;>
        simpa [reduced, found, there, type, named] using differs

mutual

theorem document_shows : (value : Value S) → hidden isActorType value = false →
    ∃ other, Similar isActorType value other ∧
      document isActorType other ≠ document isActorType value
  | .leaf .., exposed => by
      rw [hidden] at exposed
      cases exposed
  | .actor .., exposed => by
      rw [hidden] at exposed
      cases exposed
  | .model fields, exposed => by
      rw [hidden] at exposed
      obtain ⟨fields', similar, differs⟩ := documentFields_shows true fields exposed
      refine ⟨.model fields', ⟨fields', rfl, similar⟩, ?_⟩
      rw [document, document]
      simpa using differs
  | .mapping items, exposed => by
      rw [hidden] at exposed
      cases recorded : isRecordedActor isActorType items with
      | true =>
          rw [if_pos recorded] at exposed
          obtain ⟨items', similar, differs⟩ := reduced_shows exposed
          refine ⟨.mapping items', ⟨items', rfl, recorded ▸ similar⟩, ?_⟩
          rw [document, document, if_pos ((isRecordedActor_of_similar similar).trans recorded),
            if_pos recorded]
          exact differs
      | false =>
          have other := Bool.eq_false_iff.mp recorded
          rw [if_neg other] at exposed
          obtain ⟨items', similar, differs⟩ := documentFields_shows false items exposed
          refine ⟨.mapping items', ⟨items', rfl, recorded ▸ similar⟩, ?_⟩
          rw [document, document, isRecordedActor_of_similar similar, if_neg other, if_neg other]
          simpa using differs
  | .sequence items, exposed => by
      rw [hidden] at exposed
      obtain ⟨items', similar, differs⟩ := documentItems_shows items exposed
      refine ⟨.sequence items', ⟨items', rfl, similar⟩, ?_⟩
      rw [document, document]
      simpa using differs

theorem documentFields_shows (dumped : Bool) : (fields : List (String × Value S)) →
    hiddenFields isActorType dumped fields = false →
    ∃ others, SimilarFields isActorType false fields others ∧
      documentFields isActorType dumped others ≠ documentFields isActorType dumped fields
  | [], exposed => by
      rw [hiddenFields] at exposed
      cases exposed
  | (key, value) :: fields, exposed => by
      rw [hiddenFields, Bool.and_eq_false_iff] at exposed
      rcases exposed with here | later
      · have shown : ∃ other, Similar isActorType value other ∧
            (if dumped && !holdsActor other then dump other else document isActorType other) ≠
              if dumped && !holdsActor value then dump value else document isActorType value := by
          split at here
          · next whole =>
              obtain ⟨other, similar, differs⟩ := dump_shows value here
              refine ⟨other, similar, ?_⟩
              rw [holdsActor_of_similar value similar, if_pos whole, if_pos whole]
              exact differs
          · next walked =>
              obtain ⟨other, similar, differs⟩ := document_shows value here
              refine ⟨other, similar, ?_⟩
              rw [holdsActor_of_similar value similar, if_neg walked, if_neg walked]
              exact differs
        obtain ⟨other, similar, differs⟩ := shown
        refine ⟨(key, other) :: fields,
          ⟨other, fields, rfl, similarFields_refl false fields, .inl similar⟩, ?_⟩
        rw [documentFields, documentFields]
        simpa using differs
      · obtain ⟨fields', similar, differs⟩ := documentFields_shows dumped fields later
        refine ⟨(key, value) :: fields',
          ⟨value, fields', rfl, similar, .inl (similar_refl value)⟩, ?_⟩
        rw [documentFields, documentFields]
        simpa using differs

theorem documentItems_shows : (items : List (Value S)) → hiddenItems isActorType items = false →
    ∃ others, SimilarItems isActorType items others ∧
      documentItems isActorType others ≠ documentItems isActorType items
  | [], exposed => by
      rw [hiddenItems] at exposed
      cases exposed
  | value :: items, exposed => by
      rw [hiddenItems, Bool.and_eq_false_iff] at exposed
      rcases exposed with here | later
      · obtain ⟨other, similar, differs⟩ := document_shows value here
        refine ⟨other :: items, ⟨other, items, rfl, similar, similarItems_refl items⟩, ?_⟩
        rw [documentItems, documentItems]
        simpa using differs
      · obtain ⟨items', similar, differs⟩ := documentItems_shows items later
        refine ⟨value :: items', ⟨value, items', rfl, similar_refl value, similar⟩, ?_⟩
        rw [documentItems, documentItems]
        simpa using differs

end

/--
A document tells nothing of the metadata of actors exactly if none of it is exposed: what is not
hidden can be read off some value's document.
-/
theorem document_hides_metadata_iff (value : Value S) :
    (∀ other, Similar isActorType value other →
      document isActorType other = document isActorType value) ↔
      hidden isActorType value = true := by
  constructor
  · intro hides
    by_contra exposed
    obtain ⟨other, similar, differs⟩ := document_shows value (Bool.not_eq_true _ ▸ exposed)
    exact differs (hides other similar)
  · exact fun isHidden other similar => document_of_similar value isHidden similar

end similar

/-! ## What is served besides -/

section stripped

variable (isActorType : S → Bool)

mutual

/-- A value with every actor reduced to its type and id. -/
def stripped : Value S → Value S
  | .leaf dumped plain => .leaf dumped plain
  | .actor type id _ => .mapping [("type", .leaf type type), ("id", .leaf id id)]
  | .model fields => .model (strippedFields fields)
  | .mapping items =>
      if isRecordedActor isActorType items then
        .mapping (["type", "id"].filterMap fun key =>
          ((strippedFields items).lookup key).map fun value => (key, value))
      else .mapping (strippedFields items)
  | .sequence items => .sequence (strippedItems items)

def strippedFields : List (String × Value S) → List (String × Value S)
  | [] => []
  | (key, value) :: fields => (key, stripped value) :: strippedFields fields

def strippedItems : List (Value S) → List (Value S)
  | [] => []
  | value :: items => stripped value :: strippedItems items

end

mutual

/-- No leaf that a model dumps otherwise than it is served alone, as it does an instant. -/
def Uniform : Value S → Prop
  | .leaf dumped plain => dumped = plain
  | .actor .. => True
  | .model fields => UniformFields fields
  | .mapping items => UniformFields items
  | .sequence items => UniformItems items

def UniformFields : List (String × Value S) → Prop
  | [] => True
  | (_, value) :: fields => Uniform value ∧ UniformFields fields

def UniformItems : List (Value S) → Prop
  | [] => True
  | value :: items => Uniform value ∧ UniformItems items

end

variable {isActorType}

mutual

/-- Where there is no actor there is nothing to reduce. -/
theorem stripped_of_clean : (value : Value S) → clean isActorType value = true →
    stripped isActorType value = value
  | .leaf .., _ => rfl
  | .actor .., isClean => by
      rw [clean] at isClean
      cases isClean
  | .model fields, isClean => by
      rw [clean] at isClean
      rw [stripped, strippedFields_of_clean fields isClean]
  | .mapping items, isClean => by
      rw [clean, Bool.and_eq_true, Bool.not_eq_true'] at isClean
      rw [stripped, if_neg (Bool.eq_false_iff.mp isClean.1),
        strippedFields_of_clean items isClean.2]
  | .sequence items, isClean => by
      rw [clean] at isClean
      rw [stripped, strippedItems_of_clean items isClean]

theorem strippedFields_of_clean : (fields : List (String × Value S)) →
    cleanFields isActorType fields = true → strippedFields isActorType fields = fields
  | [], _ => rfl
  | (_, value) :: fields, isClean => by
      rw [cleanFields, Bool.and_eq_true] at isClean
      rw [strippedFields, stripped_of_clean value isClean.1,
        strippedFields_of_clean fields isClean.2]

theorem strippedItems_of_clean : (items : List (Value S)) →
    cleanItems isActorType items = true → strippedItems isActorType items = items
  | [], _ => rfl
  | value :: items, isClean => by
      rw [cleanItems, Bool.and_eq_true] at isClean
      rw [strippedItems, stripped_of_clean value isClean.1, strippedItems_of_clean items isClean.2]

end

theorem lookup_strippedFields (fields : List (String × Value S)) (key : String) :
    (strippedFields isActorType fields).lookup key =
      (fields.lookup key).map (stripped isActorType) := by
  induction fields with
  | nil => rfl
  | cons field fields ih =>
      rw [strippedFields, List.lookup_cons, List.lookup_cons, ih]
      split <;> rfl

theorem reduced_eq_dump {items : List (String × Value S)}
    (recorded : isRecordedActor isActorType items = true)
    (id : (items.lookup "id").all (clean isActorType) = true) :
    reduced items = dump (stripped isActorType (.mapping items)) := by
  have names : (items.lookup "type").map (stripped isActorType) = items.lookup "type" := by
    rw [isRecordedActor, Bool.and_eq_true] at recorded
    cases found : items.lookup "type" with
    | none => rfl
    | some value =>
        have isType := recorded.2
        rw [found, Option.any_some] at isType
        cases value with
        | leaf => rfl
        | _ => cases isType
  have same : (items.lookup "id").map (stripped isActorType) = items.lookup "id" := by
    cases found : items.lookup "id" with
    | none => rfl
    | some value =>
        rw [found, Option.all_some] at id
        rw [Option.map_some, stripped_of_clean value id]
  rw [stripped, if_pos recorded, dump, reduced]
  simp only [List.filterMap_cons, List.filterMap_nil, lookup_strippedFields, names, same]
  cases items.lookup "type" <;> cases items.lookup "id" <;> simp [dumpFields]

mutual

/-- What is hidden is served as it was recorded, with every actor reduced. -/
theorem document_eq_dump_stripped : (value : Value S) → hidden isActorType value = true →
    Uniform value → document isActorType value = dump (stripped isActorType value)
  | .leaf .., _, uniform => by rw [document, stripped, dump, uniform]
  | .actor .., _, _ => by
      rw [document, stripped, dump]
      simp [dumpFields, dump]
  | .model fields, isHidden, uniform => by
      rw [hidden] at isHidden
      rw [document, stripped, dump, documentFields_eq_dump true fields isHidden uniform]
  | .mapping items, isHidden, uniform => by
      rw [hidden] at isHidden
      rw [document]
      split_ifs at isHidden ⊢ with recorded
      · exact reduced_eq_dump recorded isHidden
      · rw [stripped, if_neg recorded, dump, documentFields_eq_dump false items isHidden uniform]
  | .sequence items, isHidden, uniform => by
      rw [hidden] at isHidden
      rw [document, stripped, dump, documentItems_eq_dump items isHidden uniform]

theorem documentFields_eq_dump (dumped : Bool) : (fields : List (String × Value S)) →
    hiddenFields isActorType dumped fields = true → UniformFields fields →
      documentFields isActorType dumped fields = dumpFields (strippedFields isActorType fields)
  | [], _, _ => rfl
  | (key, value) :: fields, isHidden, uniform => by
      rw [hiddenFields, Bool.and_eq_true] at isHidden
      rw [documentFields, strippedFields, dumpFields,
        documentFields_eq_dump dumped fields isHidden.2 uniform.2]
      have isHidden := isHidden.1
      split_ifs at isHidden ⊢ with whole
      · rw [stripped_of_clean value isHidden]
      · rw [document_eq_dump_stripped value isHidden uniform.1]

theorem documentItems_eq_dump : (items : List (Value S)) →
    hiddenItems isActorType items = true → UniformItems items →
      documentItems isActorType items = dumpItems (strippedItems isActorType items)
  | [], _, _ => rfl
  | value :: items, isHidden, uniform => by
      rw [hiddenItems, Bool.and_eq_true] at isHidden
      rw [documentItems, strippedItems, dumpItems,
        document_eq_dump_stripped value isHidden.1 uniform.1,
        documentItems_eq_dump items isHidden.2 uniform.2]

end

/-- The actor types. -/
def actorTypes : List String := ["human", "rule", "llm_agent", "search_provider", "system"]

/-- A proposal with its proposer, and one that was serialized into its payload. -/
def proposal : Value String :=
  .model [("proposed_by", .actor "human" "ann" [("team", .leaf "ops" "ops")]),
    ("history", .sequence [.actor "rule" "r1" [],
      .mapping [("id", .leaf "ann" "ann"), ("type", .leaf "human" "human"),
        ("metadata", .mapping [("team", .leaf "ops" "ops")])]])]

theorem proposal_served : document (· ∈ actorTypes) proposal =
    dump (stripped (· ∈ actorTypes) proposal) :=
  document_eq_dump_stripped proposal rfl ⟨trivial, ⟨trivial, ⟨rfl, rfl, ⟨rfl, trivial⟩, trivial⟩,
    trivial⟩, trivial⟩

end stripped

end Xaytune.Api

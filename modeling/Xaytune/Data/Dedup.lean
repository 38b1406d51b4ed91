import Mathlib.Algebra.BigOperators.Group.List.Basic
import Mathlib.Algebra.Ring.Nat
import Mathlib.Data.List.Range
import Mathlib.Data.List.Sublists
import Xaytune.Library.Fallible

/-!
# Deduplicating a dataset

`deduplicate` drops every sample whose text came before, and then of near duplicates: it queries the
index with each sample and keeps the least match. Matching is not transitive, so two samples that
are kept can match; what is always true is that a sample has a match among those kept.
-/

namespace Xaytune.Data

open Xaytune.Library

variable {V : Type}

/-- A sample: its items in order. -/
abbrev Sample (V : Type) := List (String × V)

inductive DedupError where
  | noStringField
  | missingField (field : String)
  | notText (field : String)
  deriving DecidableEq

/-- The text of a value, if it is one. -/
class HasText (V : Type) where
  text? : V → Option String

variable [HasText V]

/-- `_FIELD_PRIORITY`. -/
def fieldPriority : List String := ["text", "output", "response"]

/-- `name in sample and isinstance(sample[name], str)`. -/
def hasText (sample : Sample V) (name : String) : Bool :=
  ((sample.lookup name).bind HasText.text?).isSome

def detectField (sample : Sample V) : Except DedupError String :=
  match fieldPriority.find? (hasText sample) with
  | some name => .ok name
  | none =>
      match sample.find? fun item => (HasText.text? item.2).isSome with
      | some item => .ok item.1
      | none => .error .noStringField

/-- `sample[field]`, as a text. -/
def textOf (field : String) (sample : Sample V) : Except DedupError String :=
  match sample.lookup field with
  | none => .error (.missingField field)
  | some value =>
      match HasText.text? value with
      | none => .error (.notText field)
      | some text => .ok text

section stages

variable (digest : String → String) (alike : String → String → Bool)

/-- `_exact_dedup`: the samples whose digest has not been seen, and how many were dropped. -/
def exactDedup (field : String) :
    List (Sample V) → (seen : List String) → Except DedupError (List (Sample V) × Nat)
  | [], _ => .ok ([], 0)
  | sample :: samples, seen => do
      let text ← textOf field sample
      if digest text ∈ seen then do
        let (kept, dupes) ← exactDedup field samples seen
        pure (kept, dupes + 1)
      else do
        let (kept, dupes) ← exactDedup field samples (digest text :: seen)
        pure (sample :: kept, dupes)

/-- The indices whose sketch shares a bucket with that of an index, in order. -/
def matchesOf (texts : List String) (index : Nat) : List Nat :=
  (List.range texts.length).filter fun other => alike texts[index]! texts[other]!

/-- One turn of the loop over the sketches: `keep` and `removed`. -/
def query (texts : List String) (state : List Nat × Nat) (index : Nat) : List Nat × Nat :=
  if index ∈ state.1 then state
  else
    match matchesOf alike texts index with
    | [] => state
    | least :: others => (state.1.insert least, state.2 + others.length)

/-- `[samples[i] for i in sorted(keep)]`: every index of `keep` is one of a sample. -/
def selected {α : Type} (keep : List Nat) (samples : List α) : List α :=
  (samples.zipIdx.filter fun entry => entry.2 ∈ keep).map Prod.fst

/-- `_minhash_dedup`. -/
def minhashDedup (field : String) (samples : List (Sample V)) :
    Except DedupError (List (Sample V) × Nat) := do
  let texts ← samples.mapM (textOf field)
  let (keep, removed) := (List.range texts.length).foldl (query alike texts) ([], 0)
  pure (selected keep samples, removed)

inductive Method where
  | exact | minhash | both
  deriving DecidableEq

structure StepReport where
  name : String
  inputRows : Nat
  outputRows : Nat
  method : Method
  exactDupes : Nat
  nearDupes : Nat

structure PrepResult (V : Type) where
  dataset : List (Sample V)
  inputRows : Nat
  outputRows : Nat
  steps : List StepReport

def deduplicate (samples : List (Sample V)) (method : Method) (field : Option String) :
    Except DedupError (PrepResult V) :=
  match samples with
  | [] => .ok ⟨[], 0, 0, []⟩
  | first :: _ => do
      let field ← field.elim (detectField first) .ok
      let (distinct, exactDupes) ←
        (if method = .minhash then .ok (samples, 0) else exactDedup digest field samples [] :)
      let (dataset, nearDupes) ←
        (if method = .exact then .ok (distinct, 0) else minhashDedup alike field distinct :)
      pure ⟨dataset, samples.length, dataset.length,
        [⟨"deduplicate", samples.length, dataset.length, method, exactDupes, nearDupes⟩]⟩

end stages

/-! ## The exact stage -/

section exact

variable {α : Type} {digestOf : α → String} {items taken : List α}

/-- The items are those whose digest is new, the first of each. -/
structure Distinct (digestOf : α → String) (seen : List String) (samples kept : List α) :
    Prop where
  sublist : kept.Sublist samples
  nodup : (kept.map digestOf).Nodup
  unseen : ∀ sample ∈ kept, digestOf sample ∉ seen
  covers : ∀ sample ∈ samples, digestOf sample ∉ seen → ∃ other ∈ kept,
    digestOf other = digestOf sample
  first : ∀ before sample behind, samples = before ++ sample :: behind →
    digestOf sample ∉ seen → (∀ other ∈ before, digestOf other ≠ digestOf sample) → sample ∈ kept

theorem Distinct.dropped {seen : List String} {sample : α}
    (rest : Distinct digestOf seen items taken) (known : digestOf sample ∈ seen) :
    Distinct digestOf seen (sample :: items) taken := by
  refine ⟨rest.sublist.cons sample, rest.nodup, rest.unseen, ?_, ?_⟩
  · intro other member unseen
    rcases List.mem_cons.mp member with rfl | later
    · exact absurd known unseen
    · exact rest.covers other later unseen
  intro before other behind same unseen apart
  cases before with
  | nil =>
      obtain ⟨rfl, -⟩ := List.cons.inj same
      exact absurd known unseen
  | cons first before =>
      obtain ⟨rfl, tails⟩ := List.cons.inj same
      exact rest.first before other behind tails unseen fun each member =>
        apart each (List.mem_cons_of_mem _ member)

theorem Distinct.added {seen : List String} {sample : α}
    (rest : Distinct digestOf (digestOf sample :: seen) items taken)
    (new : digestOf sample ∉ seen) :
    Distinct digestOf seen (sample :: items) (sample :: taken) := by
  have unseen := fun each member => not_or.mp (List.mem_cons.not.mp (rest.unseen each member))
  refine ⟨rest.sublist.cons_cons sample, ?_, ?_, ?_, ?_⟩
  · rw [List.map_cons, List.nodup_cons]
    refine ⟨?_, rest.nodup⟩
    intro again
    obtain ⟨each, member, same⟩ := List.mem_map.mp again
    exact (unseen each member).1 same
  · exact List.forall_mem_cons.mpr ⟨new, fun each member => (unseen each member).2⟩
  · intro other member notSeen
    by_cases same : digestOf other = digestOf sample
    · exact ⟨sample, List.mem_cons_self, same.symm⟩
    · have later : other ∈ items := (List.mem_cons.mp member).resolve_left fun isFirst =>
        same (congrArg digestOf isFirst)
      obtain ⟨each, isKept, alike⟩ := rest.covers other later
        (List.mem_cons.not.mpr (not_or.mpr ⟨same, notSeen⟩))
      exact ⟨each, List.mem_cons_of_mem _ isKept, alike⟩
  · intro before other behind same notSeen apart
    cases before with
    | nil =>
        obtain ⟨rfl, -⟩ := List.cons.inj same
        exact List.mem_cons_self
    | cons first before =>
        obtain ⟨rfl, tails⟩ := List.cons.inj same
        obtain ⟨differs, apart⟩ := List.forall_mem_cons.mp apart
        apply List.mem_cons_of_mem
        refine rest.first before other behind tails ?_ apart
        exact List.mem_cons.not.mpr (not_or.mpr ⟨differs.symm, notSeen⟩)

variable {digest : String → String} {field : String} {samples kept : List (Sample V)} {dupes : Nat}

/-- The text of a sample that has one. -/
def textIn (field : String) (sample : Sample V) : String := (textOf field sample).toOption.getD ""

theorem textIn_of_ok {sample : Sample V} {text : String} (isText : textOf field sample = .ok text) :
    textIn field sample = text := by
  rw [textIn, isText]
  rfl

theorem exactDedup_distinct {seen : List String}
    (ran : exactDedup digest field samples seen = .ok (kept, dupes)) :
    Distinct (fun sample => digest (textIn field sample)) seen samples kept ∧
      dupes + kept.length = samples.length := by
  induction samples generalizing seen kept dupes with
  | nil =>
      cases ran
      refine ⟨⟨.refl _, .nil, by simp, by simp, ?_⟩, rfl⟩
      intro before sample behind same
      simp at same
  | cons sample samples ih =>
      rw [exactDedup] at ran
      obtain ⟨text, isText, ran⟩ := bind_eq_ok_iff.mp ran
      obtain rfl := textIn_of_ok isText
      split at ran
      · next known =>
          obtain ⟨⟨others, number⟩, rest, made⟩ := bind_eq_ok_iff.mp ran
          cases made
          obtain ⟨distinct, count⟩ := ih rest
          refine ⟨distinct.dropped known, ?_⟩
          rw [List.length_cons, ← count]
          omega
      · next new =>
          obtain ⟨⟨others, number⟩, rest, made⟩ := bind_eq_ok_iff.mp ran
          cases made
          obtain ⟨distinct, count⟩ := ih rest
          refine ⟨distinct.added new, ?_⟩
          rw [List.length_cons, List.length_cons, ← count]
          omega

end exact

/-! ## The near-duplicate stage -/

section near

variable {alike : String → String → Bool} {texts : List String}

/-- The least index whose sketch matches that of an index. -/
def leastMatch (alike : String → String → Bool) (texts : List String) (index : Nat) : Nat :=
  (matchesOf alike texts index).headD index

theorem mem_matchesOf {index other : Nat} :
    other ∈ matchesOf alike texts index ↔
      other < texts.length ∧ alike texts[index]! texts[other]! = true := by
  rw [matchesOf, List.mem_filter, List.mem_range]

theorem matchesOf_pairwise (alike : String → String → Bool) (texts : List String) (index : Nat) :
    (matchesOf alike texts index).Pairwise (· < ·) :=
  List.pairwise_lt_range.sublist List.filter_sublist

/-- A text matches itself, so a query is never empty. -/
theorem matchesOf_eq (refl : ∀ text, alike text text = true) {index : Nat}
    (below : index < texts.length) :
    ∃ others, matchesOf alike texts index = leastMatch alike texts index :: others := by
  have self : index ∈ matchesOf alike texts index := mem_matchesOf.mpr ⟨below, refl _⟩
  rw [leastMatch]
  cases found : matchesOf alike texts index with
  | nil =>
      rw [found] at self
      cases self
  | cons least others => exact ⟨others, rfl⟩

theorem leastMatch_mem (refl : ∀ text, alike text text = true) {index : Nat}
    (below : index < texts.length) :
    leastMatch alike texts index ∈ matchesOf alike texts index := by
  obtain ⟨others, found⟩ := matchesOf_eq refl below
  rw [found]
  exact List.mem_cons_self

theorem leastMatch_le (refl : ∀ text, alike text text = true) {index other : Nat}
    (below : index < texts.length) (isMatch : other ∈ matchesOf alike texts index) :
    leastMatch alike texts index ≤ other := by
  obtain ⟨others, found⟩ := matchesOf_eq refl below
  have ordered := matchesOf_pairwise alike texts index
  rw [found] at isMatch ordered
  rcases List.mem_cons.mp isMatch with rfl | later
  · exact Nat.le_refl _
  · exact Nat.le_of_lt (List.rel_of_pairwise_cons ordered later)

theorem leastMatch_le_self (refl : ∀ text, alike text text = true) {index : Nat}
    (below : index < texts.length) : leastMatch alike texts index ≤ index :=
  leastMatch_le refl below (mem_matchesOf.mpr ⟨below, refl _⟩)

/-- How many a query removes. -/
def excess (alike : String → String → Bool) (texts : List String) (index : Nat) : Nat :=
  (matchesOf alike texts index).length - 1

/--
The loop queries every index: what is kept when its turn comes are least matches of indices before
it, none of them past its own index.
-/
theorem queries (refl : ∀ text, alike text text = true) {count : Nat}
    (within : count ≤ texts.length) :
    (∀ index, index ∈ ((List.range count).foldl (query alike texts) ([], 0)).1 ↔
      ∃ below < count, leastMatch alike texts below = index) ∧
    ((List.range count).foldl (query alike texts) ([], 0)).2 =
      ((List.range count).map (excess alike texts)).sum := by
  induction count with
  | zero => simp
  | succ count ih =>
      obtain ⟨keeps, removes⟩ := ih (Nat.le_of_succ_le within)
      obtain ⟨others, found⟩ := matchesOf_eq refl (show count < texts.length from within)
      have turn : count ∉ ((List.range count).foldl (query alike texts) ([], 0)).1 := by
        intro member
        obtain ⟨below, before, same⟩ := (keeps count).mp member
        have least := leastMatch_le_self refl (show below < texts.length by omega)
        omega
      rw [List.range_succ, List.foldl_append, List.foldl_cons, List.foldl_nil, query, if_neg turn,
        found]
      refine ⟨?_, ?_⟩
      · intro index
        rw [List.mem_insert_iff, keeps]
        constructor
        · rintro (rfl | ⟨below, before, same⟩)
          · exact ⟨count, Nat.lt_succ_self _, rfl⟩
          · exact ⟨below, Nat.lt_succ_of_lt before, same⟩
        · rintro ⟨below, before, same⟩
          rcases Nat.lt_succ_iff_lt_or_eq.mp before with earlier | rfl
          · exact .inr ⟨below, earlier, same⟩
          · exact .inl same.symm
      · rw [List.map_append, List.sum_append, removes, List.map_singleton, List.sum_singleton,
          excess, found]
        rfl

/-- A sum with at least one for every item that is not counted is the length only if it is exact. -/
theorem sum_add_countP_eq_length_iff {α : Type} {f : α → Nat} {p : α → Bool} {items : List α}
    (least : ∀ item ∈ items, p item = false → 1 ≤ f item) :
    (items.map f).sum + items.countP p = items.length ↔
      ∀ item ∈ items, f item = if p item then 0 else 1 := by
  have bound (items : List α) (least : ∀ item ∈ items, p item = false → 1 ≤ f item) :
      items.length ≤ (items.map f).sum + items.countP p := by
    induction items with
    | nil => exact Nat.le_refl 0
    | cons item items ih =>
        obtain ⟨first, rest⟩ := List.forall_mem_cons.mp least
        have enough := ih rest
        rw [List.map_cons, List.sum_cons, List.length_cons, List.countP_cons]
        cases isCounted : p item with
        | true => simp only [if_true]; omega
        | false => have one := first isCounted; omega
  induction items with
  | nil => simp
  | cons item items ih =>
      obtain ⟨first, rest⟩ := List.forall_mem_cons.mp least
      have enough := bound items rest
      have step : f item + (items.map f).sum + (items.countP p + if p item then 1 else 0) =
          items.length + 1 ↔ f item = (if p item then 0 else 1) ∧
            (items.map f).sum + items.countP p = items.length := by
        cases isCounted : p item with
        | true => simp only [if_true]; omega
        | false =>
            have one := first isCounted
            simp only [Bool.false_eq_true, if_false]
            omega
      rw [List.map_cons, List.sum_cons, List.length_cons, List.countP_cons, List.forall_mem_cons]
      exact step.trans (and_congr_right fun _ => ih rest)

section selected

variable {α : Type} {keep : List Nat} {items : List α}

theorem selected_sublist (keep : List Nat) (items : List α) :
    (selected keep items).Sublist items := by
  have sublist : (selected keep items).Sublist (items.zipIdx.map Prod.fst) :=
    List.filter_sublist.map _
  rwa [List.zipIdx_map_fst] at sublist

theorem mem_selected {item : α} :
    item ∈ selected keep items ↔ ∃ index ∈ keep, items[index]? = some item := by
  simp [selected, List.mem_zipIdx_iff_getElem?, and_comm]

theorem length_selected (keep : List Nat) (items : List α) :
    (selected keep items).length =
      (List.range items.length).countP (· ∈ keep) := by
  rw [selected, List.length_map, ← List.countP_eq_length_filter, List.range_eq_range',
    ← List.zipIdx_map_snd 0 items, List.countP_map]
  rfl

theorem pairwise_selected {R : α → α → Prop} :
    (selected keep items).Pairwise R ↔ ∀ (first second : Nat) (below : first < items.length)
      (below' : second < items.length), first < second → first ∈ keep → second ∈ keep →
      R items[first] items[second] := by
  rw [selected, List.pairwise_map, List.pairwise_filter, List.pairwise_iff_getElem]
  simp

end selected

/-- Whether the samples at two places match. -/
theorem alike_iff {α : Type} {text : α → String} {items : List α} {first second : Nat}
    (below : first < items.length) (below' : second < items.length) :
    second ∈ matchesOf alike (items.map text) first ↔
      alike (text items[first]) (text items[second]) = true := by
  rw [mem_matchesOf, List.length_map]
  simp [below, below']

/-- What the near-duplicate stage keeps of some samples, and the number it reports. -/
structure Represents {α : Type} (alike : String → String → Bool) (text : α → String)
    (samples kept : List α) (removed : Nat) : Prop where
  sublist : kept.Sublist samples
  represented : ∀ sample ∈ samples, ∃ other ∈ kept, alike (text sample) (text other) = true
  /-- Two that are kept match unless every least match is its own. -/
  apart : (kept.Pairwise fun first second => alike (text first) (text second) = false) ↔
    ∀ index < samples.length, leastMatch alike (samples.map text)
      (leastMatch alike (samples.map text) index) = leastMatch alike (samples.map text) index
  /-- The number is right only if there is nothing to remove. -/
  counted : removed + kept.length = samples.length ↔
    samples.Pairwise fun first second => alike (text first) (text second) = false

section represents

variable {α : Type} {text : α → String} {items : List α} {keep : List Nat}
  (refl : ∀ text, alike text text = true)
  (symm : ∀ first second, alike first second = alike second first)
  (keeps : ∀ index, index ∈ keep ↔
    ∃ below < items.length, leastMatch alike (items.map text) below = index)

include refl

theorem least_below {index : Nat} (below : index < items.length) :
    leastMatch alike (items.map text) index < items.length ∧
      leastMatch alike (items.map text) index ∈ matchesOf alike (items.map text) index := by
  have below' : index < (items.map text).length := by rwa [List.length_map]
  have least := leastMatch_le_self refl below'
  exact ⟨by omega, leastMatch_mem refl below'⟩

include keeps

theorem selected_represented {item : α} (member : item ∈ items) :
    ∃ other ∈ selected keep items, alike (text item) (text other) = true := by
  obtain ⟨index, below, rfl⟩ := List.mem_iff_getElem.mp member
  obtain ⟨within, isMatch⟩ := least_below refl below
  refine ⟨items[leastMatch alike (items.map text) index], ?_, (alike_iff below within).mp isMatch⟩
  exact mem_selected.mpr ⟨_, (keeps _).mpr ⟨index, below, rfl⟩, List.getElem?_eq_getElem within⟩

include symm

theorem selected_apart :
    ((selected keep items).Pairwise fun first second => alike (text first) (text second) = false) ↔
      ∀ index < items.length, leastMatch alike (items.map text)
        (leastMatch alike (items.map text) index) = leastMatch alike (items.map text) index := by
  rw [pairwise_selected]
  constructor
  · intro apart index below
    obtain ⟨within, -⟩ := least_below refl below
    obtain ⟨within', isMatch⟩ := least_below refl within
    by_contra differs
    have least := leastMatch_le_self refl
      (show leastMatch alike (items.map text) index < (items.map text).length by simpa using within)
    have none := apart _ _ within' within (Nat.lt_of_le_of_ne least differs)
      ((keeps _).mpr ⟨_, within, rfl⟩) ((keeps _).mpr ⟨_, below, rfl⟩)
    rw [symm, (alike_iff within within').mp isMatch] at none
    cases none
  · intro own first second below below' before kept kept'
    obtain ⟨index, within, rfl⟩ := (keeps second).mp kept'
    by_contra isMatch
    rw [Bool.not_eq_false, symm] at isMatch
    have least := leastMatch_le refl (by simpa using below') ((alike_iff below' below).mpr isMatch)
    rw [own index within] at least
    exact Nat.lt_irrefl _ (Nat.lt_of_lt_of_le before least)

theorem selected_counted :
    ((List.range items.length).map (excess alike (items.map text))).sum +
        (selected keep items).length = items.length ↔
      items.Pairwise fun first second => alike (text first) (text second) = false := by
  have dropped : ∀ index ∈ List.range items.length, decide (index ∈ keep) = false →
      1 ≤ excess alike (items.map text) index := by
    intro index inRange notKept
    have below := List.mem_range.mp inRange
    have moved : leastMatch alike (items.map text) index ≠ index := fun own =>
      of_decide_eq_false notKept ((keeps index).mpr ⟨index, below, own⟩)
    have inTexts : index < (items.map text).length := by rwa [List.length_map]
    obtain ⟨others, found⟩ := matchesOf_eq refl inTexts
    have self := (alike_iff below below).mpr (refl (text items[index]))
    rw [found] at self
    have later := (List.mem_cons.mp self).resolve_left moved.symm
    rw [excess, found]
    exact List.length_pos_of_mem later
  have exact := sum_add_countP_eq_length_iff dropped
  rw [List.length_range] at exact
  rw [length_selected, exact, List.pairwise_iff_getElem]
  constructor
  · intro each first second below below' before
    by_contra isMatch
    rw [Bool.not_eq_false, symm] at isMatch
    -- the least match of the second is kept, and matches the second besides itself
    have member := (alike_iff below' below).mpr isMatch
    have inTexts : second < (items.map text).length := by rwa [List.length_map]
    have least := leastMatch_le refl inTexts member
    obtain ⟨within, back⟩ := least_below refl below'
    have kept := (keeps _).mpr ⟨second, below', rfl⟩
    have none := each _ (List.mem_range.mpr within)
    rw [decide_eq_true kept, if_pos rfl] at none
    have inTexts' : leastMatch alike (items.map text) second < (items.map text).length := by
      rwa [List.length_map]
    obtain ⟨others, found⟩ := matchesOf_eq refl inTexts'
    have forth := (alike_iff below' within).mp back
    rw [symm] at forth
    have forth := (alike_iff within below').mpr forth
    have lower := leastMatch_le_self refl inTexts'
    rw [excess, found, List.length_cons, Nat.add_sub_cancel, List.length_eq_zero_iff] at none
    rw [found, none, List.mem_singleton] at forth
    omega
  · intro apart index inRange
    have below := List.mem_range.mp inRange
    have inTexts : index < (items.map text).length := by rwa [List.length_map]
    obtain ⟨others, found⟩ := matchesOf_eq refl inTexts
    obtain ⟨within, back⟩ := least_below refl below
    have own : leastMatch alike (items.map text) index = index := by
      by_contra differs
      have least := leastMatch_le_self refl inTexts
      have none := apart _ _ within below (Nat.lt_of_le_of_ne least differs)
      rw [symm, (alike_iff below within).mp back] at none
      cases none
    have ordered := matchesOf_pairwise alike (items.map text) index
    have alone : others = [] := by
      apply List.eq_nil_iff_forall_not_mem.mpr
      intro other member
      rw [found, own] at ordered
      have isMatch : other ∈ matchesOf alike (items.map text) index := by
        rw [found]
        exact List.mem_cons_of_mem _ member
      have within' : other < items.length := by simpa using (mem_matchesOf.mp isMatch).1
      have none := apart _ _ below within' (List.rel_of_pairwise_cons ordered member)
      rw [(alike_iff below within').mp isMatch] at none
      cases none
    rw [decide_eq_true ((keeps index).mpr ⟨index, below, own⟩), if_pos rfl, excess, found, alone]
    rfl

end represents

theorem minhashDedup_represents {field : String} {samples kept : List (Sample V)} {removed : Nat}
    (refl : ∀ text, alike text text = true)
    (symm : ∀ first second, alike first second = alike second first)
    (ran : minhashDedup alike field samples = .ok (kept, removed)) :
    Represents alike (textIn field) samples kept removed := by
  obtain ⟨texts, read, made⟩ := bind_eq_ok_iff.mp ran
  have each := mapM_eq_ok_iff.mp read
  obtain rfl : samples.map (textIn field) = texts := by
    rw [← List.map_id texts]
    exact map_eq_of_forall₂ each fun _ _ _ _ => textIn_of_ok
  obtain ⟨keeps, removes⟩ := queries refl (Nat.le_refl (samples.map (textIn field)).length)
  cases made
  rw [List.length_map] at keeps removes ⊢
  refine ⟨selected_sublist _ _, ?_, ?_, ?_⟩
  · exact fun sample member => selected_represented refl keeps member
  · exact selected_apart refl symm keeps
  · rw [removes]
    exact selected_counted refl symm keeps

end near

/-! ## The whole -/

section whole

variable {α : Type} {digest : String → String} {alike : String → String → Bool}
  {text : α → String} {samples distinct : List α}

/-- Whether no two samples that reach the near-duplicate stage match. -/
def NearFree (alike : String → String → Bool) (text : α → String) (samples : List α) :
    Method → Prop
  | .exact => True
  | .minhash => samples.Pairwise fun first second => alike (text first) (text second) = false
  | .both => ∀ first ∈ samples, ∀ second ∈ samples,
      alike (text first) (text second) = true → text first = text second

/-- What deduplication promises of a dataset, and what it reports. -/
structure Deduplicated (alike : String → String → Bool) (text : α → String) (method : Method)
    (samples dataset : List α) (step : StepReport) : Prop where
  sublist : dataset.Sublist samples
  rows : step.inputRows = samples.length ∧ step.outputRows = dataset.length
  /-- Every sample has one that is returned and matches it. -/
  represented : ∀ sample ∈ samples, ∃ kept ∈ dataset, alike (text sample) (text kept) = true
  texts : method ≠ .minhash → (dataset.map text).Nodup
  exact : method = .exact → ∀ sample ∈ samples, ∃ kept ∈ dataset, text kept = text sample
  /-- Where matching is transitive no two that are returned match. -/
  apart : method ≠ .exact → (∀ first second third, alike first second = true →
      alike second third = true → alike first third = true) →
    dataset.Pairwise fun first second => alike (text first) (text second) = false
  counted : step.exactDupes + step.nearDupes = step.inputRows - step.outputRows ↔
    NearFree alike text samples method

theorem nearFree_iff
    (symm : ∀ first second, alike first second = alike second first)
    (subset : distinct ⊆ samples) (nodup : (distinct.map text).Nodup)
    (covers : ∀ sample ∈ samples, ∃ other ∈ distinct, text other = text sample) :
    (distinct.Pairwise fun first second => alike (text first) (text second) = false) ↔
      NearFree alike text samples .both := by
  constructor
  · intro apart first member second member' isMatch
    by_contra differs
    obtain ⟨one, isOne, same⟩ := covers first member
    obtain ⟨other, isOther, same'⟩ := covers second member'
    have symmetric : Std.Symm fun first second => alike (text first) (text second) = false :=
      ⟨fun _ _ none => by rw [symm, none]⟩
    have none := apart.forall isOne isOther (fun equal => differs (by rw [← same, equal, same']))
    rw [same, same', isMatch] at none
    cases none
  · intro free
    refine (List.pairwise_map.mp nodup).imp_of_mem ?_
    intro first second member member' differs
    by_contra isMatch
    exact differs (free first (subset member) second (subset member')
      (Bool.not_eq_false _ ▸ isMatch))

/-- The least match of a least match is no smaller where matching is transitive. -/
theorem leastMatch_leastMatch {texts : List String} (refl : ∀ text, alike text text = true)
    (trans : ∀ first second third, alike first second = true → alike second third = true →
      alike first third = true) {index : Nat} (below : index < texts.length) :
    leastMatch alike texts (leastMatch alike texts index) = leastMatch alike texts index := by
  obtain ⟨within, isMatch⟩ := mem_matchesOf.mp (leastMatch_mem refl below)
  obtain ⟨within', isMatch'⟩ := mem_matchesOf.mp (leastMatch_mem refl within)
  apply Nat.le_antisymm (leastMatch_le_self refl within)
  exact leastMatch_le refl below (mem_matchesOf.mpr ⟨within', trans _ _ _ isMatch isMatch'⟩)

theorem Represents.transitive {removed : Nat}
    (represents : Represents alike text samples distinct removed)
    (refl : ∀ text, alike text text = true)
    (trans : ∀ first second third, alike first second = true → alike second third = true →
      alike first third = true) :
    distinct.Pairwise fun first second => alike (text first) (text second) = false := by
  apply represents.apart.mpr
  intro index below
  exact leastMatch_leastMatch refl trans (by rwa [List.length_map])

theorem Distinct.texts (stage : Distinct (fun sample => digest (text sample)) [] samples distinct)
    (collisionFree : ∀ first ∈ samples, ∀ second ∈ samples,
      digest (text first) = digest (text second) → text first = text second) :
    (distinct.map text).Nodup ∧
      ∀ sample ∈ samples, ∃ other ∈ distinct, text other = text sample := by
  constructor
  · apply List.Nodup.of_map digest
    rw [List.map_map]
    exact stage.nodup
  · intro sample member
    obtain ⟨other, isKept, same⟩ := stage.covers sample member List.not_mem_nil
    exact ⟨other, isKept, collisionFree _ (stage.sublist.subset isKept) _ member same⟩

/-- The report of a run. -/
def report (method : Method) (samples dataset : List α) (exactDupes nearDupes : Nat) : StepReport :=
  ⟨"deduplicate", samples.length, dataset.length, method, exactDupes, nearDupes⟩

theorem deduplicated_exact {dupes : Nat} (refl : ∀ text, alike text text = true)
    (sublist : distinct.Sublist samples) (count : dupes + distinct.length = samples.length)
    (texts : (distinct.map text).Nodup)
    (covers : ∀ sample ∈ samples, ∃ other ∈ distinct, text other = text sample) :
    Deduplicated alike text .exact samples distinct (report .exact samples distinct dupes 0) := by
  constructor
  · exact sublist
  · exact ⟨rfl, rfl⟩
  · intro sample member
    obtain ⟨other, isKept, same⟩ := covers sample member
    exact ⟨other, isKept, same ▸ refl _⟩
  · exact fun _ => texts
  · exact fun _ => covers
  · exact fun differs => absurd rfl differs
  · refine iff_of_true ?_ trivial
    simp only [report]
    omega

theorem deduplicated_minhash {removed : Nat} (refl : ∀ text, alike text text = true)
    (represents : Represents alike text samples distinct removed) :
    Deduplicated alike text .minhash samples distinct
      (report .minhash samples distinct 0 removed) := by
  constructor
  · exact represents.sublist
  · exact ⟨rfl, rfl⟩
  · exact represents.represented
  · exact fun differs => absurd rfl differs
  · exact fun differs => nomatch differs
  · exact fun _ => represents.transitive refl
  · have fewer := represents.sublist.length_le
    refine Iff.trans ?_ represents.counted
    simp only [report]
    omega

theorem deduplicated_both {dataset : List α} {dupes removed : Nat}
    (refl : ∀ text, alike text text = true)
    (symm : ∀ first second, alike first second = alike second first)
    (sublist : distinct.Sublist samples) (count : dupes + distinct.length = samples.length)
    (texts : (distinct.map text).Nodup)
    (covers : ∀ sample ∈ samples, ∃ other ∈ distinct, text other = text sample)
    (represents : Represents alike text distinct dataset removed) :
    Deduplicated alike text .both samples dataset (report .both samples dataset dupes removed) := by
  constructor
  · exact represents.sublist.trans sublist
  · exact ⟨rfl, rfl⟩
  · intro sample member
    obtain ⟨other, isDistinct, same⟩ := covers sample member
    rw [← same]
    exact represents.represented other isDistinct
  · exact fun _ => texts.sublist (represents.sublist.map text)
  · exact fun differs => nomatch differs
  · exact fun _ => represents.transitive refl
  · have fewer := represents.sublist.length_le
    rw [← nearFree_iff symm sublist.subset texts covers]
    refine Iff.trans ?_ represents.counted
    simp only [report]
    omega

/-- Deduplication keeps its promise whenever it returns. -/
theorem deduplicate_deduplicates {method : Method} {field : Option String}
    {samples : List (Sample V)} {result : PrepResult V}
    (some_of : samples ≠ []) (refl : ∀ text, alike text text = true)
    (symm : ∀ first second, alike first second = alike second first)
    (collisionFree : ∀ name, ∀ first ∈ samples, ∀ second ∈ samples,
      digest (textIn name first) = digest (textIn name second) →
        textIn name first = textIn name second)
    (ran : deduplicate digest alike samples method field = .ok result) :
    ∃ name step, (∀ given, field = some given → name = given) ∧
      (∀ first, field = none → samples.head? = some first → detectField first = .ok name) ∧
      result.steps = [step] ∧
      Deduplicated alike (textIn name) method samples result.dataset step := by
  obtain ⟨first, rest, rfl⟩ := List.exists_cons_of_ne_nil some_of
  rw [deduplicate] at ran
  obtain ⟨name, isName, ran⟩ := bind_eq_ok_iff.mp ran
  obtain ⟨⟨distinct, exactDupes⟩, exactRan, ran⟩ := bind_eq_ok_iff.mp ran
  obtain ⟨⟨dataset, nearDupes⟩, nearRan, ran⟩ := bind_eq_ok_iff.mp ran
  cases ran
  refine ⟨name, report method (first :: rest) dataset exactDupes nearDupes, ?_, ?_, rfl, ?_⟩
  · rintro given rfl
    exact (Except.ok.inj isName).symm
  · rintro other rfl isFirst
    rw [← Option.some.inj isFirst]
    exact isName
  cases method with
  | exact =>
      obtain ⟨stage, count⟩ := exactDedup_distinct exactRan
      obtain ⟨texts, covers⟩ := stage.texts (collisionFree name)
      cases nearRan
      exact deduplicated_exact refl stage.sublist count texts covers
  | minhash =>
      cases exactRan
      exact deduplicated_minhash refl (minhashDedup_represents refl symm nearRan)
  | both =>
      obtain ⟨stage, count⟩ := exactDedup_distinct exactRan
      obtain ⟨texts, covers⟩ := stage.texts (collisionFree name)
      exact deduplicated_both refl symm stage.sublist count texts covers
        (minhashDedup_represents refl symm nearRan)

instance plainText : HasText String := ⟨some⟩

def pets : List (Sample String) :=
  [[("text", "cat")], [("text", "cats")], [("text", "cat")], [("text", "dog")]]

/-- Equal texts match, and so do one cat and more. -/
def sameAnimal (first second : String) : Bool :=
  first = second || (first = "cat" && second = "cats") || (first = "cats" && second = "cat")

/-- One near duplicate is dropped and two are reported. -/
def petsKept : PrepResult String where
  dataset := [[("text", "cat")], [("text", "dog")]]
  inputRows := 4
  outputRows := 2
  steps := [⟨"deduplicate", 4, 2, .both, 1, 2⟩]

theorem pets_deduplicated : ∃ step, petsKept.steps = [step] ∧
    Deduplicated sameAnimal (textIn "text") .both pets petsKept.dataset step := by
  have ran : deduplicate id sameAnimal pets .both none = .ok petsKept := rfl
  have symm (first second : String) : sameAnimal first second = sameAnimal second first := by
    rw [Bool.eq_iff_iff]
    simp only [sameAnimal, Bool.or_eq_true, Bool.and_eq_true, decide_eq_true_iff]
    tauto
  obtain ⟨name, step, -, detected, isStep, deduplicated⟩ :=
    deduplicate_deduplicates (by simp [pets]) (by simp [sameAnimal]) symm
      (fun _ _ _ _ _ same => same) ran
  have isName : Except.ok "text" = Except.ok name := detected _ rfl rfl
  rw [← Except.ok.inj isName] at deduplicated
  exact ⟨step, isStep, deduplicated⟩

end whole

end Xaytune.Data

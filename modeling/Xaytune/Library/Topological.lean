import Mathlib.Data.List.Sort
import Mathlib.Data.Set.Finite.List
import Mathlib.Order.WellFounded

/-!
# Least topological orders

Keys are taken one at a time, each once everything before it was taken, and always the
least of those that are ready. Such an order is unique, and on an acyclic relation it
leaves nothing behind. Kahn's algorithm, run on a map of what every key still waits for,
gives it.
-/

namespace Xaytune.Library

open Relation

/-! ## Orders that take the least ready key -/

section Orders

variable {κ : Type} {keys done order : List κ} {edge before : κ → κ → Prop} {key : κ}

/-- A key that may be taken next: it is left, and everything before it among the keys was taken. -/
structure Ready (keys : List κ) (edge : κ → κ → Prop) (done : List κ) (key : κ) : Prop where
  isKey : key ∈ keys
  untaken : key ∉ done
  freed : ∀ earlier ∈ keys, edge earlier key → earlier ∈ done

/-- An order that goes on after `done` with the least ready key each time, until there is none. -/
inductive LeastFirst (keys : List κ) (edge before : κ → κ → Prop) : List κ → List κ → Prop
  | stop {done : List κ} (stuck : ∀ key, ¬ Ready keys edge done key) :
      LeastFirst keys edge before done []
  | take {done order : List κ} {key : κ} (ready : Ready keys edge done key)
      (least : ∀ other, Ready keys edge done other → other = key ∨ before key other)
      (later : LeastFirst keys edge before (done ++ [key]) order) :
      LeastFirst keys edge before done (key :: order)

theorem LeastFirst.unique (asymmetric : ∀ first second, before first second → ¬ before second first)
    (least : LeastFirst keys edge before done order) :
    ∀ {other : List κ}, LeastFirst keys edge before done other → other = order := by
  induction least with
  | stop stuck =>
      intro other least
      cases least with
      | stop => rfl
      | take ready => exact absurd ready (stuck _)
  | @take done order key ready isLeast later ih =>
      intro other least'
      cases least' with
      | stop stuck => exact absurd ready (stuck _)
      | @take _ order' key' ready' isLeast' later' =>
          have same : key' = key := by
            rcases isLeast key' ready' with same | less
            · exact same
            · rcases isLeast' key ready with same | less'
              · exact same.symm
              · exact absurd less' (asymmetric _ _ less)
          subst same
          rw [ih later']

theorem LeastFirst.congr {keys' : List κ} (least : LeastFirst keys edge before done order)
    (same : ∀ key, key ∈ keys' ↔ key ∈ keys) : LeastFirst keys' edge before done order := by
  have isReady : ∀ done key, Ready keys' edge done key ↔ Ready keys edge done key := by
    intro done key
    constructor
    · rintro ⟨isKey, untaken, freed⟩
      exact ⟨(same key).mp isKey, untaken, fun earlier member =>
        freed earlier ((same earlier).mpr member)⟩
    · rintro ⟨isKey, untaken, freed⟩
      exact ⟨(same key).mpr isKey, untaken, fun earlier member =>
        freed earlier ((same earlier).mp member)⟩
  induction least with
  | stop stuck => exact .stop fun key ready => stuck key ((isReady _ key).mp ready)
  | take ready isLeast later ih =>
      exact .take ((isReady _ _).mpr ready)
        (fun other ready' => isLeast other ((isReady _ other).mp ready')) ih

theorem LeastFirst.untaken (least : LeastFirst keys edge before done order) :
    ∀ key ∈ order, key ∈ keys ∧ key ∉ done := by
  induction least with
  | stop => simp
  | @take done order first ready isLeast later ih =>
      intro key member
      rcases List.mem_cons.mp member with rfl | isLater
      · exact ⟨ready.isKey, ready.untaken⟩
      · obtain ⟨isKey, untaken⟩ := ih key isLater
        exact ⟨isKey, fun taken => untaken (List.mem_append_left _ taken)⟩

theorem LeastFirst.nodup (least : LeastFirst keys edge before done order) : order.Nodup := by
  induction least with
  | stop => exact List.nodup_nil
  | @take done order key ready isLeast later ih =>
      refine List.nodup_cons.mpr ⟨fun again => ?_, ih⟩
      exact (later.untaken key again).2 (List.mem_append_right _ List.mem_cons_self)

/-- What stands before a key among the keys was taken, or stands before it in the order. -/
theorem LeastFirst.ordered (least : LeastFirst keys edge before done order) :
    ∀ {earlier later : List κ} {key : κ}, order = earlier ++ key :: later →
      ∀ parent ∈ keys, edge parent key → parent ∈ done ++ earlier := by
  induction least with
  | stop =>
      intro earlier later key isOrder
      simp at isOrder
  | @take done order first ready isLeast rest ih =>
      intro earlier later key isOrder parent isKey isEdge
      cases earlier with
      | nil =>
          obtain ⟨rfl, rfl⟩ := List.cons.inj isOrder
          exact List.mem_append_left _ (ready.freed parent isKey isEdge)
      | cons head earlier =>
          obtain ⟨rfl, isLater⟩ := List.cons.inj isOrder
          have placed := ih isLater parent isKey isEdge
          rwa [List.append_assoc] at placed

/-- Of keys that close no cycle, some one left has nothing left before it. -/
theorem exists_ready (acyclic : ∀ key, ¬ TransGen edge key key) (isKey : key ∈ keys)
    (untaken : key ∉ done) : ∃ first, Ready keys edge done first := by
  let left := { other : κ // other ∈ keys ∧ other ∉ done }
  have finite : Finite left := by
    let unplaced : left → { other : κ // other ∈ keys } := fun other => ⟨other.1, other.2.1⟩
    have listed : Finite { other : κ // other ∈ keys } := List.finite_toSet keys
    refine Finite.of_injective unplaced fun first second same => ?_
    exact Subtype.ext (Subtype.mk.inj same)
  let above : left → left → Prop := fun first second => TransGen edge first.1 second.1
  have wellFounded : WellFounded above := by
    have isTrans : IsTrans left above := ⟨fun _ _ _ first second => first.trans second⟩
    have irreflexive : Std.Irrefl above := ⟨fun other => acyclic other.1⟩
    exact Finite.wellFounded_of_trans_of_irrefl above
  obtain ⟨first, -, least⟩ := wellFounded.has_min Set.univ ⟨⟨key, isKey, untaken⟩, trivial⟩
  refine ⟨first.1, first.2.1, first.2.2, fun earlier isKey isEdge => ?_⟩
  by_contra isLeft
  exact least ⟨earlier, isKey, isLeft⟩ trivial (.single isEdge)

theorem LeastFirst.complete (acyclic : ∀ key, ¬ TransGen edge key key)
    (least : LeastFirst keys edge before done order) : ∀ key ∈ keys, key ∈ done ++ order := by
  induction least with
  | @stop done stuck =>
      intro key isKey
      rw [List.append_nil]
      by_contra untaken
      obtain ⟨first, ready⟩ := exists_ready acyclic isKey untaken
      exact stuck first ready
  | take ready isLeast later ih =>
      intro key isKey
      have placed := ih key isKey
      rwa [List.append_assoc] at placed

end Orders

/-! ## Kahn's algorithm -/

section Kahn

variable {κ β : Type} [LinearOrder β]

/-- The keys by their rank. -/
def ranked (rank : κ → β) (keys : List κ) : List κ :=
  keys.insertionSort fun first second => rank first ≤ rank second

theorem ranked_perm {rank : κ → β} {keys : List κ} : (ranked rank keys).Perm keys :=
  List.perm_insertionSort _ _

theorem ranked_pairwise {rank : κ → β} {keys : List κ} :
    (ranked rank keys).Pairwise fun first second => rank first ≤ rank second := by
  have total : Std.Total fun first second : κ => rank first ≤ rank second :=
    ⟨fun first second => le_total (rank first) (rank second)⟩
  have transitive : IsTrans κ fun first second => rank first ≤ rank second :=
    ⟨fun _ _ _ => le_trans⟩
  exact List.pairwise_insertionSort _ _

variable [DecidableEq κ]

/-- The map without a taken key, which nothing waits for any more. -/
def release (key : κ) (remaining : List (κ × List κ)) : List (κ × List κ) :=
  (remaining.filter fun entry => entry.1 ≠ key).map fun entry =>
    (entry.1, entry.2.filter fun waiting => waiting ≠ key)

/-- The keys that waited for a taken one, and for nothing else. -/
def freedBy (key : κ) (remaining : List (κ × List κ)) : List κ :=
  ((remaining.filter fun entry => entry.1 ≠ key).filter fun entry =>
    key ∈ entry.2 ∧ entry.2.filter (fun waiting => waiting ≠ key) = []).map Prod.fst

/-- The rounds: the first ready key is taken, and what it frees is sorted in. `none` if keys are
ready when the fuel is gone, or a ready key is not in the map. -/
def kahn (rank : κ → β) : Nat → List (κ × List κ) → List κ → Option (List κ)
  | _, _, [] => some []
  | 0, _, _ :: _ => none
  | fuel + 1, remaining, key :: ready =>
      if key ∈ remaining.map Prod.fst then
        (kahn rank fuel (release key remaining)
          (ranked rank (ready ++ freedBy key remaining))).map (key :: ·)
      else none

/-- The keys that wait for nothing. -/
def unblocked (remaining : List (κ × List κ)) : List κ :=
  (remaining.filter fun entry => entry.2 = []).map Prod.fst

/-- Where the rounds stand once `done` was taken: the map has the keys that are left, each with
what is left before it, and the ready ones stand by rank. -/
structure Waits (keys : List κ) (edge : κ → κ → Prop) (rank : κ → β) (done : List κ)
    (remaining : List (κ × List κ)) (ready : List κ) : Prop where
  left : ∀ key, key ∈ remaining.map Prod.fst ↔ key ∈ keys ∧ key ∉ done
  distinct : (remaining.map Prod.fst).Nodup
  waits : ∀ entry ∈ remaining, ∀ earlier,
    earlier ∈ entry.2 ↔ earlier ∈ keys ∧ edge earlier entry.1 ∧ earlier ∉ done
  isReady : ∀ key, key ∈ ready ↔ Ready keys edge done key
  nodup : ready.Nodup
  sorted : ready.Pairwise fun first second => rank first ≤ rank second

variable {keys done ready : List κ} {edge : κ → κ → Prop} {rank : κ → β} {key : κ}
  {remaining : List (κ × List κ)}

theorem release_fst : (release key remaining).map Prod.fst =
    (remaining.map Prod.fst).filter fun other => other ≠ key := by
  simp only [release, List.map_map, List.filter_map]
  rfl

theorem mem_freedBy {other : κ} : other ∈ freedBy key remaining ↔
    other ≠ key ∧ ∃ entry ∈ remaining, entry.1 = other ∧ key ∈ entry.2 ∧
      ∀ waiting ∈ entry.2, waiting = key := by
  simp only [freedBy, List.mem_map, List.mem_filter, decide_eq_true_eq, List.filter_eq_nil_iff,
    not_not]
  constructor
  · rintro ⟨entry, ⟨⟨member, apart⟩, blocks, alone⟩, rfl⟩
    exact ⟨apart, entry, member, rfl, blocks, alone⟩
  · rintro ⟨apart, entry, member, rfl, blocks, alone⟩
    exact ⟨entry, ⟨⟨member, apart⟩, blocks, alone⟩, rfl⟩

theorem length_release (distinct : (remaining.map Prod.fst).Nodup)
    (inMap : key ∈ remaining.map Prod.fst) :
    (release key remaining).length + 1 = remaining.length := by
  have erased : (remaining.map Prod.fst).erase key = (release key remaining).map Prod.fst := by
    rw [release_fst, distinct.erase_eq_filter]
    refine List.filter_congr fun other _ => ?_
    by_cases same : other = key <;> simp [same]
  have names := congrArg List.length erased
  rw [List.length_erase_of_mem inMap, List.length_map, List.length_map] at names
  have some := List.length_pos_of_mem inMap
  rw [List.length_map] at some
  omega

/-- The freed keys wait for the taken one, and for nothing else that is left. -/
theorem Waits.freed (waits : Waits keys edge rank done remaining ready) {other : κ} :
    other ∈ freedBy key remaining ↔ (other ≠ key ∧ key ∈ keys ∧ edge key other ∧ key ∉ done) ∧
      Ready keys edge (done ++ [key]) other := by
  rw [mem_freedBy]
  constructor
  · rintro ⟨apart, entry, member, rfl, blocks, alone⟩
    obtain ⟨isKey, isEdge, untaken⟩ := (waits.waits entry member key).mp blocks
    obtain ⟨isOther, left⟩ := (waits.left entry.1).mp (List.mem_map_of_mem member)
    refine ⟨⟨apart, isKey, isEdge, untaken⟩, isOther, ?_, fun earlier isEarlier precedes => ?_⟩
    · simp [left, apart]
    · by_cases taken : earlier ∈ done
      · exact List.mem_append_left _ taken
      · have same :=
          alone earlier ((waits.waits entry member earlier).mpr ⟨isEarlier, precedes, taken⟩)
        exact List.mem_append_right _ (List.mem_singleton.mpr same)
  · rintro ⟨⟨apart, isKey, isEdge, untaken⟩, isReady⟩
    have left : other ∉ done := fun taken => isReady.untaken (List.mem_append_left _ taken)
    obtain ⟨entry, member, rfl⟩ := List.mem_map.mp ((waits.left other).mpr ⟨isReady.isKey, left⟩)
    refine ⟨apart, entry, member, rfl,
      (waits.waits entry member key).mpr ⟨isKey, isEdge, untaken⟩, ?_⟩
    intro earlier blocks
    obtain ⟨isEarlier, precedes, isLeft⟩ := (waits.waits entry member earlier).mp blocks
    rcases List.mem_append.mp (isReady.freed earlier isEarlier precedes) with taken | same
    · exact absurd taken isLeft
    · exact List.mem_singleton.mp same

/-- What is ready after a round was ready before it, or is freed by it. -/
theorem Waits.ready_next (waits : Waits keys edge rank done remaining (key :: ready)) (other : κ) :
    other ∈ ready ++ freedBy key remaining ↔ Ready keys edge (done ++ [key]) other := by
  have isKey : Ready keys edge done key := (waits.isReady key).mp List.mem_cons_self
  have notKey : key ∉ ready := (List.nodup_cons.mp waits.nodup).1
  rw [List.mem_append, waits.freed]
  constructor
  · rintro (isReady | ⟨-, isReady⟩)
    · obtain ⟨isOther, left, freed⟩ := (waits.isReady other).mp (List.mem_cons_of_mem _ isReady)
      refine ⟨isOther, ?_, fun earlier isEarlier precedes =>
        List.mem_append_left _ (freed earlier isEarlier precedes)⟩
      rw [List.mem_append, List.mem_singleton]
      rintro (taken | rfl)
      · exact left taken
      · exact notKey isReady
    · exact isReady
  · intro isReady
    have apart : other ≠ key := by
      rintro rfl
      exact isReady.untaken (List.mem_append_right _ List.mem_cons_self)
    have left : other ∉ done := fun taken => isReady.untaken (List.mem_append_left _ taken)
    by_cases precedes : edge key other
    · exact .inr ⟨⟨apart, isKey.isKey, precedes, isKey.untaken⟩, isReady⟩
    · have before : Ready keys edge done other := by
        refine ⟨isReady.isKey, left, fun earlier isEarlier isEdge => ?_⟩
        rcases List.mem_append.mp (isReady.freed earlier isEarlier isEdge) with taken | same
        · exact taken
        · exact absurd (List.mem_singleton.mp same ▸ isEdge) precedes
      exact .inl (List.mem_of_ne_of_mem apart ((waits.isReady other).mpr before))

/-- One round takes the first ready key. -/
theorem Waits.step (waits : Waits keys edge rank done remaining (key :: ready)) :
    Waits keys edge rank (done ++ [key]) (release key remaining)
      (ranked rank (ready ++ freedBy key remaining)) where
  left other := by
    rw [release_fst, List.mem_filter, waits.left]
    simp only [decide_eq_true_eq, List.mem_append, List.mem_singleton, not_or]
    tauto
  distinct := by
    rw [release_fst]
    exact waits.distinct.filter _
  waits entry member earlier := by
    obtain ⟨old, isOld, rfl⟩ := List.mem_map.mp member
    have known := waits.waits old (List.mem_filter.mp isOld).1 earlier
    simp only [List.mem_filter, decide_eq_true_eq, known, List.mem_append, List.mem_singleton,
      not_or]
    tauto
  isReady other := ranked_perm.mem_iff.trans (waits.ready_next other)
  nodup := by
    refine ranked_perm.nodup_iff.mpr (List.nodup_append.mpr ⟨?_, ?_, ?_⟩)
    · exact (List.nodup_cons.mp waits.nodup).2
    · exact waits.distinct.sublist ((List.filter_sublist.trans List.filter_sublist).map Prod.fst)
    · rintro other isReady _ isFreed rfl
      -- a ready key waits for nothing
      have was := (waits.isReady other).mp (List.mem_cons_of_mem _ isReady)
      obtain ⟨⟨-, isKey, isEdge, untaken⟩, -⟩ := waits.freed.mp isFreed
      exact untaken (was.freed key isKey isEdge)
  sorted := ranked_pairwise

/-- The rounds end with the order that takes the least ready key each time. -/
theorem Waits.ends (injective : Function.Injective rank)
    (waits : Waits keys edge rank done remaining ready) :
    ∃ order, (∀ fuel ≥ remaining.length, kahn rank fuel remaining ready = some order) ∧
      LeastFirst keys edge (fun first second => rank first < rank second) done order := by
  induction left : remaining.length generalizing remaining ready done with
  | zero =>
      have stuck : ∀ key, ¬ Ready keys edge done key := by
        intro key isReady
        have inMap := (waits.left key).mpr ⟨isReady.isKey, isReady.untaken⟩
        rw [List.eq_nil_of_length_eq_zero left] at inMap
        cases inMap
      cases ready with
      | nil => exact ⟨[], fun fuel _ => by cases fuel <;> rfl, .stop stuck⟩
      | cons key ready => exact absurd ((waits.isReady key).mp List.mem_cons_self) (stuck key)
  | succ count ih =>
      cases ready with
      | nil =>
          refine ⟨[], fun fuel _ => by cases fuel <;> rfl, .stop fun key isReady => ?_⟩
          exact List.not_mem_nil ((waits.isReady key).mpr isReady)
      | cons key ready =>
          have isReady : Ready keys edge done key := (waits.isReady key).mp List.mem_cons_self
          have inMap : key ∈ remaining.map Prod.fst :=
            (waits.left key).mpr ⟨isReady.isKey, isReady.untaken⟩
          have fewer := length_release waits.distinct inMap
          obtain ⟨order, ends, least⟩ := ih waits.step (by omega)
          refine ⟨key :: order, fun fuel enough => ?_, .take isReady ?_ least⟩
          · cases fuel with
            | zero => omega
            | succ fuel =>
                rw [kahn, if_pos inMap, ends fuel (by omega)]
                rfl
          · intro other isOther
            by_cases same : other = key
            · exact .inl same
            · have isLater := List.mem_of_ne_of_mem same ((waits.isReady other).mpr isOther)
              have below := (List.pairwise_cons.mp waits.sorted).1 other isLater
              exact .inr (lt_of_le_of_ne below fun equal => same (injective equal).symm)

omit [DecidableEq κ] in
/-- The rounds from the start, over each key with what stands before it among the keys. -/
theorem waits_start (left : ∀ key, key ∈ remaining.map Prod.fst ↔ key ∈ keys)
    (distinct : (remaining.map Prod.fst).Nodup)
    (waits : ∀ entry ∈ remaining, ∀ earlier,
      earlier ∈ entry.2 ↔ earlier ∈ keys ∧ edge earlier entry.1) :
    Waits keys edge rank [] remaining (ranked rank (unblocked remaining)) where
  left key := by simp [left key]
  distinct := distinct
  waits entry member earlier := by simp [waits entry member earlier]
  isReady key := by
    simp only [ranked_perm.mem_iff, unblocked, List.mem_map, List.mem_filter, decide_eq_true_eq]
    constructor
    · rintro ⟨entry, ⟨member, empty⟩, rfl⟩
      refine ⟨(left entry.1).mp (List.mem_map_of_mem member), List.not_mem_nil, ?_⟩
      intro earlier isKey isEdge
      have blocks := (waits entry member earlier).mpr ⟨isKey, isEdge⟩
      rwa [empty] at blocks
    · intro isReady
      obtain ⟨entry, member, rfl⟩ := List.mem_map.mp ((left key).mpr isReady.isKey)
      refine ⟨entry, ⟨member, List.eq_nil_iff_forall_not_mem.mpr fun earlier blocks => ?_⟩, rfl⟩
      obtain ⟨isKey, isEdge⟩ := (waits entry member earlier).mp blocks
      exact List.not_mem_nil (isReady.freed earlier isKey isEdge)
  nodup := ranked_perm.nodup_iff.mpr (distinct.sublist (List.filter_sublist.map Prod.fst))
  sorted := ranked_pairwise

end Kahn

end Xaytune.Library

import Mathlib.Data.List.Dedup
import Mathlib.Data.List.Perm.Basic
import Mathlib.Logic.Relation

/-!
# Graphs built in construction order

Vertices that name parents listed before them, the edges they leave, and two ways
to walk such edges: a recursive query that takes rows off a queue and never queues
a row twice, and a search that expands the top of a stack until nothing is left of
it. Both take fuel, and end within enough of it where what they meet is bounded.
-/

namespace Xaytune.Library

open Relation

/-! ## Construction order -/

section Order

variable {α κ : Type}

/-- Vertices listed in construction order: each is new and names `related` vertices before it. -/
inductive Constructed (key : α → κ) (parents : α → List κ) (related : α → α → Prop) : List α → Prop
  | nil : Constructed key parents related []
  | snoc {vertices : List α} {vertex : α} (earlier : Constructed key parents related vertices)
      (fresh : ∀ other ∈ vertices, key other ≠ key vertex)
      (named : ∀ parent ∈ parents vertex, ∃ other ∈ vertices,
        key other = parent ∧ related other vertex) :
      Constructed key parents related (vertices ++ [vertex])

/-- The edges of the vertices, from each of its parents to each vertex. -/
def edgesOf (key : α → κ) (parents : α → List κ) (vertices : List α) : List (κ × κ) :=
  vertices.flatMap fun vertex => (parents vertex).map fun parent => (parent, key vertex)

variable {key : α → κ} {parents : α → List κ} {related : α → α → Prop} {vertices : List α}

theorem mem_edgesOf {parent child : κ} :
    (parent, child) ∈ edgesOf key parents vertices ↔
      ∃ vertex ∈ vertices, key vertex = child ∧ parent ∈ parents vertex := by
  simp only [edgesOf, List.mem_flatMap, List.mem_map, Prod.mk.injEq]
  constructor
  · rintro ⟨vertex, member, _, named, rfl, rfl⟩
    exact ⟨vertex, member, rfl, named⟩
  · rintro ⟨vertex, member, rfl, named⟩
    exact ⟨vertex, member, parent, named, rfl, rfl⟩

theorem edgesOf_snoc (vertex : α) :
    edgesOf key parents (vertices ++ [vertex]) =
      edgesOf key parents vertices ++ (parents vertex).map fun parent => (parent, key vertex) := by
  simp [edgesOf]

/-- A vertex rewritten under its key and with its parents leaves the edges as they were. -/
theorem edgesOf_map {f : α → α} (sameKey : ∀ vertex ∈ vertices, key (f vertex) = key vertex)
    (sameParents : ∀ vertex ∈ vertices, parents (f vertex) = parents vertex) :
    edgesOf key parents (vertices.map f) = edgesOf key parents vertices := by
  unfold edgesOf
  rw [List.flatMap_map]
  refine List.flatMap_congr fun vertex member => ?_
  rw [sameKey vertex member, sameParents vertex member]

/-- The edges into a vertex are its parents, in the order it names them. -/
theorem edgesOf_into [DecidableEq κ] (distinct : (vertices.map key).Nodup) {vertex : α}
    (member : vertex ∈ vertices) :
    ((edgesOf key parents vertices).filter fun edge => edge.2 = key vertex).map Prod.fst =
      parents vertex := by
  induction vertices with
  | nil => cases member
  | cons first rest ih =>
      rw [List.map_cons, List.nodup_cons] at distinct
      have split : edgesOf key parents (first :: rest) =
          ((parents first).map fun parent => (parent, key first)) ++ edgesOf key parents rest :=
        List.flatMap_cons
      rw [split, List.filter_append, List.map_append]
      rcases List.mem_cons.mp member with rfl | later
      · have own : ((parents vertex).map fun parent => (parent, key vertex)).filter
            (fun edge => edge.2 = key vertex) =
              (parents vertex).map fun parent => (parent, key vertex) := by
          simp
        have others : (edgesOf key parents rest).filter (fun edge => edge.2 = key vertex) = [] := by
          rw [List.filter_eq_nil_iff]
          rintro ⟨parent, child⟩ edge same
          obtain ⟨other, inRest, isChild, _⟩ := mem_edgesOf.mp edge
          apply distinct.1
          rw [← of_decide_eq_true same, ← isChild]
          exact List.mem_map_of_mem inRest
        rw [own, others, List.map_nil, List.append_nil, List.map_map]
        exact List.map_id (parents vertex)
      · have none : ((parents first).map fun parent => (parent, key first)).filter
            (fun edge => edge.2 = key vertex) = [] := by
          rw [List.filter_eq_nil_iff]
          rintro ⟨parent, child⟩ edge same
          obtain ⟨_, _, isEdge⟩ := List.mem_map.mp edge
          cases isEdge
          have sameKey : key first = key vertex := of_decide_eq_true same
          apply distinct.1
          rw [sameKey]
          exact List.mem_map_of_mem later
        rw [none, ih distinct.2 later]
        rfl

theorem Constructed.map {f : α → α} (constructed : Constructed key parents related vertices)
    (sameKey : ∀ vertex ∈ vertices, key (f vertex) = key vertex)
    (sameParents : ∀ vertex ∈ vertices, parents (f vertex) = parents vertex)
    (sameRelated : ∀ first ∈ vertices, ∀ second ∈ vertices, related first second →
      related (f first) (f second)) :
    Constructed key parents related (vertices.map f) := by
  induction constructed with
  | nil => exact .nil
  | @snoc vertices vertex earlier fresh named ih =>
      have inside : ∀ other ∈ vertices, other ∈ vertices ++ [vertex] :=
        fun _ member => List.mem_append_left _ member
      have last : vertex ∈ vertices ++ [vertex] := List.mem_append_right _ List.mem_cons_self
      rw [List.map_append, List.map_singleton]
      refine .snoc (ih ?_ ?_ ?_) ?_ ?_
      · exact fun other member => sameKey other (inside other member)
      · exact fun other member => sameParents other (inside other member)
      · exact fun first member second member' =>
          sameRelated first (inside first member) second (inside second member')
      · intro other member
        obtain ⟨old, oldMember, rfl⟩ := List.mem_map.mp member
        rw [sameKey old (inside old oldMember), sameKey vertex last]
        exact fresh old oldMember
      · intro parent isParent
        rw [sameParents vertex last] at isParent
        obtain ⟨other, member, isKey, isRelated⟩ := named parent isParent
        refine ⟨f other, List.mem_map_of_mem member, ?_, ?_⟩
        · rw [sameKey other (inside other member), isKey]
        · exact sameRelated other (inside other member) vertex last isRelated

/-- Every parent a vertex names is a vertex it is related to. -/
theorem Constructed.named (constructed : Constructed key parents related vertices) {vertex : α}
    (member : vertex ∈ vertices) {parent : κ} (isParent : parent ∈ parents vertex) :
    ∃ other ∈ vertices, key other = parent ∧ related other vertex := by
  induction constructed with
  | nil => cases member
  | @snoc vertices last earlier fresh named ih =>
      rcases List.mem_append.mp member with before | isLast
      · obtain ⟨other, otherMember, found⟩ := ih before
        exact ⟨other, List.mem_append_left _ otherMember, found⟩
      · rw [List.mem_singleton] at isLast
        subst isLast
        obtain ⟨other, otherMember, found⟩ := named parent isParent
        exact ⟨other, List.mem_append_left _ otherMember, found⟩

variable [DecidableEq κ]

/-- A parent stands before the vertex that names it. -/
theorem Constructed.rank_lt (constructed : Constructed key parents related vertices) {vertex : α}
    (member : vertex ∈ vertices) {parent : κ} (isParent : parent ∈ parents vertex) :
    (vertices.map key).idxOf parent < (vertices.map key).idxOf (key vertex) := by
  induction constructed with
  | nil => cases member
  | @snoc vertices last earlier fresh named ih =>
      rw [List.map_append]
      rcases List.mem_append.mp member with before | isLast
      · obtain ⟨other, otherMember, rfl, _⟩ := earlier.named before isParent
        rw [List.idxOf_append_of_mem (List.mem_map_of_mem otherMember),
          List.idxOf_append_of_mem (List.mem_map_of_mem before)]
        exact ih before
      · rw [List.mem_singleton] at isLast
        subst isLast
        obtain ⟨other, otherMember, rfl, _⟩ := named parent isParent
        have isNew : key vertex ∉ vertices.map key := by
          rw [List.mem_map]
          rintro ⟨old, oldMember, same⟩
          exact fresh old oldMember same
        rw [List.idxOf_append_of_mem (List.mem_map_of_mem otherMember),
          List.idxOf_append_of_notMem isNew]
        have bound := List.idxOf_lt_length_of_mem (List.mem_map_of_mem (f := key) otherMember)
        omega

end Order

/-- Edges along which a rank increases close no cycle. -/
theorem acyclic_of_rank {κ : Type} {edge : κ → κ → Prop} (rank : κ → Nat)
    (increases : ∀ first second, edge first second → rank first < rank second) (vertex : κ) :
    ¬ TransGen edge vertex vertex := by
  intro cycle
  have climbs : TransGen (· < ·) (rank vertex) (rank vertex) := cycle.lift rank increases
  rw [transGen_eq_self] at climbs
  exact Nat.lt_irrefl _ climbs

/-- Of edges between finitely many vertices that close no cycle some rank increases along each. -/
theorem exists_rank_of_acyclic {κ : Type} {edge : κ → κ → Prop} {all : List κ}
    (acyclic : ∀ vertex, ¬ TransGen edge vertex vertex)
    (inside : ∀ first second, edge first second → first ∈ all) :
    ∃ rank : κ → Nat, (∀ first second, edge first second → rank first < rank second) ∧
      ∀ vertex, rank vertex ≤ all.length := by
  classical
  let above := fun vertex => all.filter fun other => TransGen edge other vertex
  refine ⟨fun vertex => (above vertex).length, fun first second isEdge => ?_,
    fun vertex => List.length_filter_le _ _⟩
  have shorter : (above first).Sublist (above second) := by
    refine List.monotone_filter_right all fun other isAbove => ?_
    rw [decide_eq_true_eq] at isAbove ⊢
    exact isAbove.tail isEdge
  -- the first vertex is above the second, and not above itself
  apply Nat.lt_of_not_le
  intro asLong
  have same := shorter.eq_of_length_le asLong
  have isAbove : first ∈ above second :=
    List.mem_filter.mpr ⟨inside first second isEdge, decide_eq_true (.single isEdge)⟩
  rw [← same] at isAbove
  exact acyclic first (of_decide_eq_true (List.mem_filter.mp isAbove).2)

/-! ## Recursive queries -/

/-- The rows that follow the initial ones. -/
def Follows {α : Type} (next : α → List α) (initial : List α) (row : α) : Prop :=
  ∃ first ∈ initial, ReflTransGen (fun before after => after ∈ next before) first row

section Queries

variable {α : Type} [DecidableEq α]

/-- A recursive query: each row taken off the queue adds what follows it, a row added before
excepted. `none` if rows are left when the fuel is gone. -/
def recursiveUnion (next : α → List α) : Nat → List α → List α → Option (List α)
  | _, added, [] => some added
  | 0, _, _ :: _ => none
  | fuel + 1, added, row :: queue =>
      let fresh := (next row).dedup.filter fun other => other ∉ added
      recursiveUnion next fuel (added ++ fresh) (queue ++ fresh)

/-- Where a query stands: what was added follows the initial rows, and of an added row that is
no longer queued everything that follows it was added. -/
structure Queued (next : α → List α) (initial added queue : List α) : Prop where
  nodup : added.Nodup
  queued : ∀ row ∈ queue, row ∈ added
  started : ∀ row ∈ initial, row ∈ added
  follows : ∀ row ∈ added, Follows next initial row
  closed : ∀ row ∈ added, row ∈ queue ∨ ∀ other ∈ next row, other ∈ added

variable {next : α → List α} {initial added queue : List α}

theorem Queued.start : Queued next initial initial.dedup initial.dedup where
  nodup := initial.nodup_dedup
  queued _ member := member
  started _ member := List.mem_dedup.mpr member
  follows row member := ⟨row, List.mem_dedup.mp member, .refl⟩
  closed _ member := .inl member

theorem Queued.step {row : α} (queued : Queued next initial added (row :: queue)) :
    Queued next initial (added ++ (next row).dedup.filter fun other => other ∉ added)
      (queue ++ (next row).dedup.filter fun other => other ∉ added) where
  nodup := by
    rw [List.nodup_append]
    refine ⟨queued.nodup, (List.nodup_dedup _).filter _, ?_⟩
    rintro old inAdded other inFresh rfl
    simp only [List.mem_filter, decide_eq_true_eq] at inFresh
    exact inFresh.2 inAdded
  queued other member := by
    rcases List.mem_append.mp member with inQueue | inFresh
    · exact List.mem_append_left _ (queued.queued other (List.mem_cons_of_mem _ inQueue))
    · exact List.mem_append_right _ inFresh
  started other member := List.mem_append_left _ (queued.started other member)
  follows other member := by
    rcases List.mem_append.mp member with inAdded | inFresh
    · exact queued.follows other inAdded
    · rw [List.mem_filter, List.mem_dedup] at inFresh
      obtain ⟨first, isFirst, path⟩ :=
        queued.follows row (queued.queued row List.mem_cons_self)
      exact ⟨first, isFirst, path.tail inFresh.1⟩
  closed other member := by
    have nextAdded : ∀ after ∈ next row,
        after ∈ added ++ (next row).dedup.filter fun other => other ∉ added := by
      intro after isNext
      by_cases known : after ∈ added
      · exact List.mem_append_left _ known
      · apply List.mem_append_right
        rw [List.mem_filter, List.mem_dedup]
        exact ⟨isNext, decide_eq_true known⟩
    rcases List.mem_append.mp member with inAdded | inFresh
    · rcases queued.closed other inAdded with inQueue | done
      · rcases List.mem_cons.mp inQueue with rfl | later
        · exact .inr nextAdded
        · exact .inl (List.mem_append_left _ later)
      · exact .inr fun after isNext => List.mem_append_left _ (done after isNext)
    · exact .inl (List.mem_append_right _ inFresh)

omit [DecidableEq α] in
/-- With an empty queue, every row that follows the initial ones was added. -/
theorem Queued.complete (queued : Queued next initial added []) (row : α) :
    row ∈ added ↔ Follows next initial row := by
  constructor
  · exact queued.follows row
  · rintro ⟨first, isFirst, path⟩
    induction path with
    | refl => exact queued.started first isFirst
    | tail _ isNext ih =>
        rcases queued.closed _ ih with inQueue | done
        · cases inQueue
        · exact done _ isNext

/-- Where finitely many rows follow the initial ones, the query ends with exactly those. -/
theorem recursiveUnion_ends {all : List α} (bounded : ∀ row, Follows next initial row → row ∈ all) :
    ∃ rows, (∀ fuel ≥ all.length,
        recursiveUnion next fuel initial.dedup initial.dedup = some rows) ∧
      ∀ row, row ∈ rows ↔ Follows next initial row := by
  -- each round takes one row off the queue, and adds to the queue what it adds to the rows
  have ends : ∀ (left : Nat) (added queue : List α), Queued next initial added queue →
      all.length + queue.length = left + added.length →
      ∃ rows, (∀ fuel ≥ left, recursiveUnion next fuel added queue = some rows) ∧
        ∀ row, row ∈ rows ↔ Follows next initial row := by
    intro left
    induction left with
    | zero =>
        intro added queue queued sizes
        have few : added.length ≤ all.length :=
          (List.subperm_of_subset queued.nodup fun row member =>
            bounded row (queued.follows row member)).length_le
        have empty : queue = [] := List.eq_nil_of_length_eq_zero (by omega)
        subst empty
        refine ⟨added, fun fuel _ => ?_, queued.complete⟩
        cases fuel <;> rfl
    | succ left ih =>
        intro added queue queued sizes
        cases queue with
        | nil =>
            refine ⟨added, fun fuel _ => ?_, queued.complete⟩
            cases fuel <;> rfl
        | cons row queue =>
            obtain ⟨rows, ended, exactly⟩ := ih _ _ queued.step (by
              simp only [List.length_append, List.length_cons] at sizes ⊢
              omega)
            refine ⟨rows, fun fuel enough => ?_, exactly⟩
            cases fuel with
            | zero => omega
            | succ fuel => exact ended fuel (by omega)
  exact ends all.length initial.dedup initial.dedup .start rfl

end Queries

/-! ## Searches -/

section Searches

variable {α : Type}

/-- A search that takes the top of a stack and puts what it expands to in its place, the last
first; an item that expands to nothing is a leaf. `none` if items are left when the fuel is gone. -/
def explore (expand : α → List α) : Nat → List α → Option (List α)
  | _, [] => some []
  | 0, _ :: _ => none
  | fuel + 1, item :: stack =>
      if (expand item).isEmpty then (explore expand fuel stack).map (item :: ·)
      else explore expand fuel ((expand item).reverse ++ stack)

variable {expand : α → List α}

/-- The items cost so much fuel to be done with, and then the search goes on with the stack. -/
def Explores (expand : α → List α) (items : List α) (cost : Nat) (leaves : List α) : Prop :=
  ∀ fuel stack, explore expand (cost + fuel) (items ++ stack) =
    (explore expand fuel stack).map (leaves ++ ·)

theorem Explores.nil : Explores expand [] 0 [] := by
  intro fuel stack
  simp

theorem Explores.append {first second : List α} {cost cost' : Nat} {leaves leaves' : List α}
    (explores : Explores expand first cost leaves)
    (explores' : Explores expand second cost' leaves') :
    Explores expand (first ++ second) (cost + cost') (leaves ++ leaves') := by
  intro fuel stack
  rw [List.append_assoc, Nat.add_assoc, explores, explores', Option.map_map]
  congr 1
  funext rest
  simp

/-- What a search below some items finds: every leaf below them, once. -/
structure Finds (expand : α → List α) (items leaves : List α) : Prop where
  exactly : ∀ leaf, leaf ∈ leaves ↔ expand leaf = [] ∧ Follows expand items leaf
  nodup : leaves.Nodup

theorem Explores.all {items : List α}
    (apart : items.Pairwise fun first second => ∀ leaf,
      Follows expand [first] leaf → ¬ Follows expand [second] leaf)
    (each : ∀ item ∈ items, ∃ cost leaves, Explores expand [item] cost leaves ∧
      Finds expand [item] leaves) :
    ∃ cost leaves, Explores expand items cost leaves ∧ Finds expand items leaves := by
  induction items with
  | nil =>
      refine ⟨0, [], .nil, fun leaf => ?_, List.nodup_nil⟩
      constructor
      · intro member
        cases member
      · rintro ⟨-, first, member, -⟩
        cases member
  | cons item rest ih =>
      obtain ⟨separate, apart⟩ := List.pairwise_cons.mp apart
      obtain ⟨cost, leaves, explores, finds⟩ := each item List.mem_cons_self
      obtain ⟨cost', leaves', explores', finds'⟩ :=
        ih apart fun other member => each other (List.mem_cons_of_mem _ member)
      refine ⟨_, _, explores.append explores', fun leaf => ?_, ?_⟩
      · rw [List.mem_append, finds.exactly, finds'.exactly, ← and_or_left]
        refine and_congr_right fun _ => ?_
        simp only [Follows, List.mem_cons, List.not_mem_nil, or_false, exists_eq_left,
          exists_eq_or_imp]
      · refine List.nodup_append.mpr ⟨finds.nodup, finds'.nodup, ?_⟩
        rintro leaf isLeaf _ isOther rfl
        obtain ⟨other, member, path⟩ := ((finds'.exactly leaf).mp isOther).2
        exact separate other member leaf ((finds.exactly leaf).mp isLeaf).2
          ⟨other, List.mem_singleton_self other, path⟩

/-- The leaves below an item that is none are those below what it expands to. -/
theorem follows_expand {item leaf : α} (inner : expand item ≠ []) (isLeaf : expand leaf = []) :
    Follows expand [item] leaf ↔ Follows expand (expand item) leaf := by
  constructor
  · rintro ⟨first, isFirst, path⟩
    rw [List.mem_singleton] at isFirst
    subst isFirst
    rcases path.cases_head with same | ⟨below, isBelow, rest⟩
    · exact absurd (same ▸ isLeaf) inner
    · exact ⟨below, isBelow, rest⟩
  · rintro ⟨below, isBelow, path⟩
    exact ⟨item, List.mem_singleton_self item, path.head isBelow⟩

/-- Where what an item expands to is smaller, and no leaf is below two items it expands to, the
search below it ends with every leaf, once. -/
theorem exists_explores (size : α → Nat) (valid : α → Prop)
    (shrinks : ∀ item, valid item → ∀ below ∈ expand item, valid below ∧ size below < size item)
    (apart : ∀ item, valid item → (expand item).Pairwise fun first second => ∀ leaf,
      Follows expand [first] leaf → ¬ Follows expand [second] leaf)
    (item : α) (isValid : valid item) :
    ∃ cost leaves, Explores expand [item] cost leaves ∧ Finds expand [item] leaves := by
  induction bound : size item using Nat.strongRecOn generalizing item with
  | _ bound ih =>
      subst bound
      by_cases isLeaf : expand item = []
      · refine ⟨1, [item], ?_, fun leaf => ?_, List.nodup_singleton item⟩
        · intro fuel stack
          rw [Nat.add_comm, List.singleton_append, explore, if_pos (by simp [isLeaf])]
          rfl
        · rw [List.mem_singleton]
          constructor
          · rintro rfl
            exact ⟨isLeaf, leaf, List.mem_singleton_self leaf, .refl⟩
          · rintro ⟨-, first, isFirst, path⟩
            rw [List.mem_singleton] at isFirst
            subst isFirst
            rcases path.cases_head with same | ⟨below, isBelow, -⟩
            · exact same.symm
            · rw [isLeaf] at isBelow
              cases isBelow
      · have separate : (expand item).reverse.Pairwise fun first second => ∀ leaf,
            Follows expand [first] leaf → ¬ Follows expand [second] leaf :=
          List.pairwise_reverse.mpr
            ((apart item isValid).imp fun apart leaf first second => apart leaf second first)
        obtain ⟨cost, leaves, explores, finds⟩ := Explores.all separate
          fun below (isBelow : below ∈ (expand item).reverse) => by
            have smaller := shrinks item isValid below (List.mem_reverse.mp isBelow)
            exact ih _ smaller.2 below smaller.1 rfl
        refine ⟨cost + 1, leaves, ?_, fun leaf => ?_, finds.nodup⟩
        · intro fuel stack
          have unfolded : cost + 1 + fuel = cost + fuel + 1 := by omega
          rw [unfolded, List.singleton_append, explore, if_neg (by simpa using isLeaf)]
          exact explores fuel stack
        · rw [finds.exactly]
          refine and_congr_right fun ends => ?_
          rw [follows_expand isLeaf ends]
          simp only [Follows, List.mem_reverse]

/-- With enough fuel the search answers. -/
theorem explore_ends (size : α → Nat) (valid : α → Prop)
    (shrinks : ∀ item, valid item → ∀ below ∈ expand item, valid below ∧ size below < size item)
    (apart : ∀ item, valid item → (expand item).Pairwise fun first second => ∀ leaf,
      Follows expand [first] leaf → ¬ Follows expand [second] leaf)
    {item : α} (isValid : valid item) :
    ∃ enough leaves, (∀ fuel ≥ enough, explore expand fuel [item] = some leaves) ∧
      Finds expand [item] leaves := by
  obtain ⟨cost, leaves, explores, finds⟩ := exists_explores size valid shrinks apart item isValid
  refine ⟨cost, leaves, fun fuel enough => ?_, finds⟩
  obtain ⟨more, rfl⟩ := Nat.exists_eq_add_of_le enough
  have ended := explores more []
  rw [List.append_nil] at ended
  rw [ended]
  cases more <;> simp [explore]

end Searches

end Xaytune.Library
